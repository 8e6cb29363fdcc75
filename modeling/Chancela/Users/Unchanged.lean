import Chancela.Users.Handlers

/-! # Changes that change nothing

A request may ask for what the record already has. When a section leaves every record as it
found it, or is accepted and followed by no failing write, is decided on the request and the
users it finds (`Chancela.LockedSection.spares_iff`).
-/

namespace Chancela

/-! ### Requests that ask for what is there -/

def Stands {α : Type*} (asked : Option α) (present : α) : Prop :=
  ∀ value, asked = some value → value = present

namespace UserRecord

/-- A new name, if one is given, is blank or the one the record has. -/
def NameStands (user : UserRecord) (displayName : Option String) : Prop :=
  ∀ name, displayName = some name → Text.trim name = "" ∨ Text.trim name = user.displayName

/-- A new address, if one is given, is the one the record has. -/
def AddressStands (user : UserRecord) (email : Option (Option String)) : Prop :=
  ∀ address, email = some address → normalizeOptionalEmail address "email" = .ok user.email

def AddressRefused (email : Option (Option String)) : Prop :=
  ∃ address fault, email = some address ∧ normalizeOptionalEmail address "email" = .error fault

variable {user : UserRecord}

theorem eq_patchDisplayName (displayName : Option String) :
    user.patchDisplayName displayName =
      { user with displayName := (user.patchDisplayName displayName).displayName } := by
  unfold patchDisplayName
  cases displayName with
  | none => rfl
  | some name =>
      dsimp only
      split <;> rfl

theorem displayName_eq_iff {displayName : Option String} :
    (user.patchDisplayName displayName).displayName = user.displayName ↔
      user.NameStands displayName := by
  unfold NameStands patchDisplayName
  cases displayName with
  | none =>
      refine ⟨fun _ name given => ?_, fun _ => rfl⟩
      cases given
  | some name =>
      dsimp only
      split
      · rename_i blank
        refine ⟨fun _ given same => ?_, fun _ => rfl⟩
        rw [← Option.some.inj same]
        exact .inl blank
      · rename_i named
        constructor
        · intro same given present
          rw [← Option.some.inj present]
          exact .inr same
        · intro stands
          rcases stands name rfl with blank | same
          · exact (named blank).elim
          · exact same

theorem patchDisplayName_eq_self_iff {displayName : Option String} :
    user.patchDisplayName displayName = user ↔ user.NameStands displayName := by
  rw [← displayName_eq_iff]
  refine ⟨fun same => congrArg UserRecord.displayName same, fun same => ?_⟩
  rw [eq_patchDisplayName, same]

theorem patchEmail_eq_error_iff {email : Option (Option String)} :
    (∃ fault, user.patchEmail email = .error fault) ↔ AddressRefused email := by
  unfold patchEmail AddressRefused
  cases email with
  | none =>
      constructor
      · rintro ⟨fault, refused⟩
        cases refused
      · rintro ⟨address, fault, given, -⟩
        cases given
  | some address =>
      dsimp only
      cases normalized : normalizeOptionalEmail address "email" with
      | ok written =>
          constructor
          · rintro ⟨fault, refused⟩
            cases refused
          · rintro ⟨given, fault, same, refused⟩
            rw [← Option.some.inj same, normalized] at refused
            cases refused
      | error fault => exact ⟨fun _ => ⟨address, fault, rfl, normalized⟩, fun _ => ⟨fault, rfl⟩⟩

theorem email_eq_iff {displayName : Option String} {email : Option (Option String)}
    {addressed : UserRecord}
    (accepted : (user.patchDisplayName displayName).patchEmail email = .ok addressed) :
    addressed.email = user.email ↔ user.AddressStands email := by
  rw [eq_patchDisplayName] at accepted
  unfold patchEmail at accepted
  unfold AddressStands
  cases email with
  | none =>
      rw [← Except.ok.inj accepted]
      refine ⟨fun _ address given => ?_, fun _ => rfl⟩
      cases given
  | some address =>
      dsimp only at accepted
      cases normalized : normalizeOptionalEmail address "email" with
      | error fault =>
          rw [normalized] at accepted
          cases accepted
      | ok written =>
          rw [normalized] at accepted
          rw [← Except.ok.inj accepted]
          constructor
          · intro kept given present
            rw [← Option.some.inj present, normalized, ← kept]
          · intro stands
            rw [stands address rfl] at normalized
            exact (Except.ok.inj normalized).symm

end UserRecord

namespace PatchUser

/-- A patch asks for what the record has. -/
structure AsksNothing (request : PatchUser) (user : UserRecord) : Prop where
  name : user.NameStands request.displayName
  address : user.AddressStands request.email
  active : Stands request.active user.active
  language : Stands request.language user.language
  twoFactorRequired : Stands request.twoFactorRequired user.twoFactorRequired

end PatchUser

namespace PatchMyProfile

/-- A profile asks for what the record has. -/
structure AsksNothing (request : PatchMyProfile) (user : UserRecord) : Prop where
  name : user.NameStands request.displayName
  address : user.AddressStands request.email
  language : Stands request.language user.language

end PatchMyProfile

namespace CredentialChange

def AsksNothing (user : UserRecord) : CredentialChange → Prop
  | .setSecret rewrapped dropKey newHash source consumes _ =>
      user.passwordHash = some newHash ∧ user.secretSource = source ∧
        (consumes.isSome = true → user.recoveryHash = none) ∧ user.forcePasswordChange = false ∧
        match rewrapped, dropKey with
        | none, false => True
        | some blob, false => user.attestationKey = some blob
        | none, true => user.attestationKey = none
        | some blob, true => user.attestationKey = none ∧
            user.retiredAttestationKeys.any (·.scalar = blob.scalar) = true
  | .installKey newKey _ =>
      user.attestationKey = some newKey ∧
        user.retiredAttestationKeys.any (·.scalar = newKey.scalar) = true
  | .removeKey consumes _ =>
      user.attestationKey = none ∧ (consumes.isSome = true → user.recoveryHash = none)
  | .issueRecovery verifier => user.recoveryHash = some verifier

end CredentialChange

section Patches

open UserRecord

variable {user : UserRecord}

theorem getD_eq_iff_stands {α : Type*} {asked : Option α} {present : α} :
    asked.getD present = present ↔ Stands asked present := by
  unfold Stands
  cases asked with
  | none =>
      refine ⟨fun _ value given => ?_, fun _ => rfl⟩
      cases given
  | some value => exact ⟨fun same given present => Option.some.inj present ▸ same, fun stands =>
      stands value rfl⟩

theorem PatchUser.change_of_accepted {request : PatchUser} {addressed : UserRecord}
    (accepted : (user.patchDisplayName request.displayName).patchEmail request.email =
      .ok addressed) :
    request.change user = ({ user with
      displayName := (user.patchDisplayName request.displayName).displayName
      email := addressed.email
      active := request.active.getD user.active
      language := request.language.getD user.language
      twoFactorRequired := request.twoFactorRequired.getD user.twoFactorRequired }, .ok ()) := by
  unfold PatchUser.change
  dsimp only
  rw [accepted]
  obtain ⟨written, rfl⟩ := eq_of_patchEmail accepted
  dsimp only
  rw [eq_patchDisplayName]
  cases request.active <;> cases request.language <;> cases request.twoFactorRequired <;> rfl

theorem PatchUser.change_eq_self_iff {request : PatchUser} {addressed : UserRecord}
    (accepted : (user.patchDisplayName request.displayName).patchEmail request.email =
      .ok addressed) : (request.change user).1 = user ↔ request.AsksNothing user := by
  rw [change_of_accepted accepted]
  constructor
  · intro same
    have named := congrArg UserRecord.displayName same
    have written := congrArg UserRecord.email same
    exact ⟨displayName_eq_iff.mp named, (email_eq_iff accepted).mp written,
      getD_eq_iff_stands.mp (congrArg UserRecord.active same),
      getD_eq_iff_stands.mp (congrArg UserRecord.language same),
      getD_eq_iff_stands.mp (congrArg UserRecord.twoFactorRequired same)⟩
  · intro asks
    rw [displayName_eq_iff.mpr asks.name, (email_eq_iff accepted).mpr asks.address,
      getD_eq_iff_stands.mpr asks.active, getD_eq_iff_stands.mpr asks.language,
      getD_eq_iff_stands.mpr asks.twoFactorRequired]

theorem PatchMyProfile.asksNothing_patch_iff {request : PatchMyProfile} :
    request.patch.AsksNothing user ↔ request.AsksNothing user :=
  ⟨fun asks => ⟨asks.name, asks.address, asks.language⟩, fun asks =>
    ⟨asks.name, asks.address, fun _ given => (by cases given), asks.language,
      fun _ given => (by cases given)⟩⟩

end Patches

section Credentials

theorem ite_none_eq_iff {α : Type*} {consumed : Bool} {present : Option α} :
    (if consumed = true then none else present) = present ↔ (consumed = true → present = none) := by
  cases consumed with
  | true => exact ⟨fun same _ => same.symm, fun absent => (absent rfl).symm⟩
  | false => exact ⟨fun _ consumed => (Bool.false_ne_true consumed).elim, fun _ => rfl⟩

theorem ite_append_eq_iff {α : Type*} {listed : Bool} {present : List α} {value : α} :
    (if listed = true then present else present ++ [value]) = present ↔ listed = true := by
  cases listed with
  | true => exact ⟨fun _ => rfl, fun _ => rfl⟩
  | false =>
      refine ⟨fun same => ?_, fun listed => (Bool.false_ne_true listed).elim⟩
      exact (List.cons_ne_nil value [] (List.append_right_eq_self.mp same)).elim

theorem CredentialChange.apply_eq_self_iff {change : CredentialChange} {user : UserRecord} :
    change.apply user = user ↔ change.AsksNothing user := by
  cases user with
  | mk _ _ _ _ _ _ _ attestationKey =>
      cases change with
      | setSecret rewrapped dropKey newHash source consumes retiredAt =>
          cases rewrapped <;> cases dropKey <;> cases attestationKey <;>
            simp only [apply, AsksNothing, UserRecord.retireAttestationKey, UserRecord.mk.injEq,
              Bool.false_eq_true, ↓reduceIte, ite_none_eq_iff, ite_append_eq_iff] <;> grind
      | installKey newKey retiredAt =>
          cases attestationKey <;>
            simp only [apply, AsksNothing, UserRecord.retireAttestationKey, UserRecord.mk.injEq,
              ite_append_eq_iff] <;> grind
      | removeKey consumes retiredAt =>
          cases attestationKey <;>
            simp only [apply, AsksNothing, UserRecord.retireAttestationKey, UserRecord.mk.injEq,
              ite_none_eq_iff] <;> grind
      | issueRecovery verifier =>
          simp only [apply, AsksNothing, UserRecord.mk.injEq]
          grind

end Credentials

/-! ### Sections whose refusal leaves the users alone -/

def UserSurroundings.LaterFails (around : UserSurroundings) (rest : Remainder) : Prop :=
  (rest.clearsPhone = true ∧ around.cleared ≠ .ok ()) ∨ around.persisted ≠ .ok () ∨
    around.recorded ≠ .ok () ∨ (rest.revokesSessions = true ∧ around.revoked ≠ .ok ())

/-- Where the section changes a record, it is not refused half-way and no later write fails. -/
def LockedSection.Harmless [Crates] (around : UserSurroundings) (users : UserMap)
    (section_ : LockedSection) : Prop :=
  match section_ with
  | .assignRole target assignment => ∀ user, users.get target = some user →
      assignment ∉ user.roleAssignments → ¬around.LaterFails section_.remainder
  | .unassignRole target assignment => ∀ user, users.get target = some user →
      assignment ∈ user.roleAssignments →
      ¬(assignment.isOwnerAdmin = true ∧ lastOwnerGuard users.countOwnerAdminHolders = false) →
      ¬around.LaterFails section_.remainder
  | .patchUser target request => patchRefusal users target request = none →
      ∀ user, users.get target = some user →
      (UserRecord.AddressRefused request.email → user.NameStands request.displayName) ∧
      (¬UserRecord.AddressRefused request.email → ¬request.AsksNothing user →
        ¬around.LaterFails section_.remainder)
  | .patchMeProfile me request => ∀ user, users.get me = some user →
      (UserRecord.AddressRefused request.email → user.NameStands request.displayName) ∧
      (¬UserRecord.AddressRefused request.email → ¬request.AsksNothing user →
        ¬around.LaterFails section_.remainder)
  | .suspendMe me => ∀ user, users.get me = some user → suspensionRefusal users user = none →
      ¬around.LaterFails section_.remainder
  | .createUser fields => creationRefusal users fields = none →
      users.get around.newId ≠
        some (fields.record users.values.isEmpty around.newId around.createdAt) →
      ¬around.LaterFails section_.remainder
  | .credential target change => ∀ user, users.get target = some user →
      ¬change.AsksNothing user → ¬around.LaterFails section_.remainder

/-- A section is accepted and no later write fails, or it leaves the users it finds. -/
def LockedSection.Spares [Crates] (around : UserSurroundings) (users : UserMap)
    (section_ : LockedSection) : Prop :=
  ((∃ record, (section_.run users around.newId around.createdAt).2 = .ok record) ∧
    ¬around.LaterFails section_.remainder) ∨
  (section_.run users around.newId around.createdAt).1.get = users.get

namespace UserMap

variable {users : UserMap} {target : Uuid} {record : UserRecord} {fails : Prop}
  {change : UserRecord → UserRecord × Except AccountError Unit}

theorem get_insert_eq_get_iff :
    (users.insert record).get = users.get ↔ users.get record.id = some record := by
  constructor
  · intro same
    rw [← same]
    exact Table.get_insert_self
  · intro present
    funext id
    rw [Table.get_insert]
    split
    · rename_i keyed
      rw [keyed, present]
    · rfl

theorem spares_edit_iff (named : ∀ user, (change user).1.id = user.id) :
    ((∃ record, (users.edit target change).2 = .ok record) ∧ ¬fails) ∨
        (users.edit target change).1.get = users.get ↔
      ∀ user, users.get target = some user →
        ((change user).2 = .ok () ∧ ¬fails) ∨ (change user).1 = user := by
  cases found : users.get target with
  | none =>
      have absent : (users.edit target change).1 = users := by rw [edit, found]
      refine ⟨fun _ user present => ?_, fun _ => .inr (congrArg Table.get absent)⟩
      cases present
  | some user =>
      have keyed : (change user).1.id = target := (named user).trans (Table.key_of_get found)
      rw [edit_of_get_eq_some found, get_insert_eq_get_iff, keyed, found]
      dsimp only
      constructor
      · intro spares other present
        rw [← Option.some.inj present]
        rcases spares with ⟨⟨record, accepted⟩, lasting⟩ | same
        · cases outcome : (change user).2 with
          | error fault =>
              rw [outcome] at accepted
              cases accepted
          | ok _ => exact .inl ⟨rfl, lasting⟩
        · exact .inr (Option.some.inj same).symm
      · intro spares
        rcases spares user rfl with ⟨accepted, lasting⟩ | same
        · rw [accepted]
          exact .inl ⟨⟨_, rfl⟩, lasting⟩
        · rw [same]
          exact .inr rfl

end UserMap

theorem ok_and_or_iff {fails changes : Prop} {outcome : Except AccountError Unit}
    (accepted : outcome = .ok ()) : (outcome = .ok () ∧ ¬fails) ∨ changes ↔ ¬changes → ¬fails := by
  rw [or_comm, or_iff_not_imp_left]
  simp only [accepted, true_and]

section Patches

open UserRecord

variable {user : UserRecord} {fails : Prop}

theorem UserRecord.spares_change_iff {displayName : Option String} {email : Option (Option String)}
    {change : UserRecord × Except AccountError Unit} {asksNothing : Prop}
    (refused : ∀ fault, (user.patchDisplayName displayName).patchEmail email = .error fault →
      change = (user.patchDisplayName displayName, .error fault))
    (accepted : ∀ addressed, (user.patchDisplayName displayName).patchEmail email = .ok addressed →
      change.2 = .ok () ∧ (change.1 = user ↔ asksNothing)) :
    (change.2 = .ok () ∧ ¬fails) ∨ change.1 = user ↔
      (AddressRefused email → user.NameStands displayName) ∧
      (¬AddressRefused email → ¬asksNothing → ¬fails) := by
  have refusal := @patchEmail_eq_error_iff (user.patchDisplayName displayName) email
  cases address : (user.patchDisplayName displayName).patchEmail email with
  | error fault =>
      have given : AddressRefused email := refusal.mp ⟨fault, address⟩
      rw [refused fault address]
      simp only [reduceCtorEq, false_and, false_or, given, true_implies, not_true_eq_false,
        false_implies, and_true]
      exact patchDisplayName_eq_self_iff
  | ok addressed =>
      have standing : ¬AddressRefused email := by
        intro given
        obtain ⟨fault, same⟩ := refusal.mpr given
        rw [address] at same
        cases same
      obtain ⟨outcome, same⟩ := accepted addressed address
      rw [ok_and_or_iff outcome, same]
      simp only [standing, false_implies, not_false_eq_true, true_implies, true_and]

theorem PatchUser.spares_iff {request : PatchUser} :
    ((request.change user).2 = .ok () ∧ ¬fails) ∨ (request.change user).1 = user ↔
      (AddressRefused request.email → user.NameStands request.displayName) ∧
      (¬AddressRefused request.email → ¬request.AsksNothing user → ¬fails) := by
  apply spares_change_iff
  · intro fault refused
    unfold PatchUser.change
    dsimp only
    rw [refused]
  · intro addressed accepted
    refine ⟨?_, PatchUser.change_eq_self_iff accepted⟩
    rw [PatchUser.change_of_accepted accepted]

theorem PatchMyProfile.spares_iff {request : PatchMyProfile} :
    ((request.change user).2 = .ok () ∧ ¬fails) ∨ (request.change user).1 = user ↔
      (AddressRefused request.email → user.NameStands request.displayName) ∧
      (¬AddressRefused request.email → ¬request.AsksNothing user → ¬fails) := by
  rw [PatchMyProfile.change_eq, PatchUser.spares_iff, PatchMyProfile.asksNothing_patch_iff]
  rfl

end Patches

section Roles

variable {user : UserRecord} {assignment : RoleAssignment}

theorem UserRecord.roles_eq_iff {roles : List RoleAssignment} :
    { user with roleAssignments := roles } = user ↔ roles = user.roleAssignments := by
  refine ⟨fun same => congrArg UserRecord.roleAssignments same, fun same => ?_⟩
  rw [same]

theorem pushDistinct_eq_self_iff {roles : List RoleAssignment} :
    pushDistinct roles assignment = roles ↔ assignment ∈ roles := by
  unfold pushDistinct
  split
  · rename_i held
    exact ⟨fun _ => held, fun _ => rfl⟩
  · rename_i absent
    refine ⟨fun same => ?_, fun held => (absent held).elim⟩
    exact (List.cons_ne_nil assignment [] (List.append_right_eq_self.mp same)).elim

theorem filter_ne_eq_self_iff {roles : List RoleAssignment} :
    roles.filter (· ≠ assignment) = roles ↔ assignment ∉ roles := by
  rw [List.filter_eq_self]
  constructor
  · intro kept held
    exact of_decide_eq_true (kept assignment held) rfl
  · intro absent other held
    apply decide_eq_true
    intro same
    exact absent (same ▸ held)

end Roles

namespace LockedSection

open UserMap

variable [Crates] {around : UserSurroundings} {users : UserMap}

theorem spares_assignRole {target : Uuid} {assignment : RoleAssignment} :
    (assignRole target assignment).Spares around users ↔
      (assignRole target assignment).Harmless around users := by
  refine (spares_edit_iff fun _ => rfl).trans (forall₂_congr fun user found => ?_)
  rw [ok_and_or_iff rfl, UserRecord.roles_eq_iff, pushDistinct_eq_self_iff]

theorem spares_unassignRole {target : Uuid} {assignment : RoleAssignment} :
    (unassignRole target assignment).Spares around users ↔
      (unassignRole target assignment).Harmless around users := by
  unfold Spares Harmless
  simp only [run, Chancela.unassignRole]
  cases found : users.get target with
  | none =>
      refine ⟨fun _ user present => ?_, fun _ => .inr rfl⟩
      cases present
  | some user =>
      dsimp only
      split
      · rename_i last
        refine ⟨fun _ other present _ allowed => ?_, fun _ => .inr rfl⟩
        exact (allowed last.2).elim
      · rename_i allowed
        rw [spares_edit_iff fun _ => rfl, found]
        refine forall₂_congr fun other present => ?_
        obtain rfl := Option.some.inj present
        rw [ok_and_or_iff rfl, UserRecord.roles_eq_iff, filter_ne_eq_self_iff, not_not]
        constructor
        · exact fun lasting held _ => lasting held
        · exact fun lasting held => lasting held fun last => allowed ⟨held, last⟩

theorem spares_patchUser {target : Uuid} {request : PatchUser} :
    (patchUser target request).Spares around users ↔
      (patchUser target request).Harmless around users := by
  unfold Spares Harmless
  simp only [run, Chancela.patchUser]
  cases patchRefusal users target request with
  | some fault =>
      refine ⟨fun _ accepted => ?_, fun _ => .inr rfl⟩
      cases accepted
  | none =>
      dsimp only
      rw [spares_edit_iff fun _ => PatchUser.id_change, eq_self, true_implies]
      exact forall₂_congr fun user found => PatchUser.spares_iff

theorem spares_suspendMe {me : Uuid} :
    (suspendMe me).Spares around users ↔ (suspendMe me).Harmless around users := by
  unfold Spares Harmless
  simp only [run, Chancela.suspendMe]
  cases found : users.get me with
  | none =>
      refine ⟨fun _ user present => ?_, fun _ => .inr rfl⟩
      cases present
  | some user =>
      dsimp only
      cases refused : suspensionRefusal users user with
      | some fault =>
          refine ⟨fun _ other present accepted => ?_, fun _ => .inr rfl⟩
          rw [← Option.some.inj present, refused] at accepted
          cases accepted
      | none =>
          dsimp only
          rw [spares_edit_iff fun _ => rfl, found]
          refine forall₂_congr fun other present => ?_
          obtain rfl := Option.some.inj present
          have suspended : { user with active := false } ≠ user := by
            intro same
            unfold suspensionRefusal at refused
            rw [← congrArg UserRecord.active same] at refused
            cases refused
          rw [ok_and_or_iff rfl, refused]
          simp only [suspended, not_false_eq_true, true_implies]

theorem spares_createUser {fields : NewUser} :
    (createUser fields).Spares around users ↔ (createUser fields).Harmless around users := by
  unfold Spares Harmless
  simp only [run, Chancela.createUser]
  cases creationRefusal users fields with
  | some fault =>
      refine ⟨fun _ accepted => ?_, fun _ => .inr rfl⟩
      cases accepted
  | none =>
      dsimp only
      rw [get_insert_eq_get_iff, or_comm, or_iff_not_imp_left, eq_self, true_implies]
      refine forall_congr' fun changes => ?_
      exact ⟨fun accepted => accepted.2, fun lasting => ⟨⟨_, rfl⟩, lasting⟩⟩

/-- **A refused section, or one followed by a failing write, leaves the users it finds** exactly
where it changes no record or is neither. -/
theorem spares_iff {section_ : LockedSection} :
    section_.Spares around users ↔ section_.Harmless around users := by
  cases section_ with
  | assignRole target assignment => exact spares_assignRole
  | unassignRole target assignment => exact spares_unassignRole
  | patchUser target request => exact spares_patchUser
  | patchMeProfile me request =>
      refine (spares_edit_iff fun _ => PatchMyProfile.id_change).trans ?_
      exact forall₂_congr fun user found => PatchMyProfile.spares_iff
  | suspendMe me => exact spares_suspendMe
  | createUser fields => exact spares_createUser
  | credential target change =>
      refine (spares_edit_iff fun _ => CredentialChange.id_apply).trans ?_
      refine forall₂_congr fun user found => ?_
      rw [ok_and_or_iff rfl, CredentialChange.apply_eq_self_iff]

end LockedSection

end Chancela
