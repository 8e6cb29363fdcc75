import Chancela.Foundation.Interleave
import Chancela.Foundation.Keyed
import Chancela.Users.Sections

/-! # Account requests

The requests that change accounts, each cut at its lock and await points: what precedes the
write lock, the section under it, and then, one after the other, the writes that may fail (the
saved telephone number, the record in its durable place, the ledger event, the sessions). The
record written out is the copy taken in the section.
-/

namespace Chancela

/-- Where the users are kept: as rows of a database, in `users.json`, or in memory alone. -/
inductive UsersBacking where
  | sidecarsDbBacked
  | usersPath
  | ephemeral
deriving DecidableEq

/-- The users in memory and in their durable place. -/
structure UserSite where
  users : UserMap
  stored : Keyed Uuid UserRecord
  backing : UsersBacking

namespace UserSite

/-- `persist_users`: the users in memory replace those in the durable place. -/
def persistUsers (site : UserSite) : UserSite :=
  match site.backing with
  | .ephemeral => site
  | .sidecarsDbBacked | .usersPath => { site with stored := site.users.get }

/-- `persist_user`: a row takes the record it is given; a file takes the users in memory. -/
def persistUser (site : UserSite) (user : UserRecord) : UserSite :=
  match site.backing with
  | .sidecarsDbBacked => { site with stored := site.stored.insert user.id user }
  | .usersPath => { site with stored := site.users.get }
  | .ephemeral => site

def saving (site : UserSite) (write : UserSite → UserSite) (outcome : Except AccountError Unit) :
    UserSite :=
  match outcome with
  | .ok _ => write site
  | .error _ => site

end UserSite

section Durable

variable {site : UserSite} {user : UserRecord}

@[simp] theorem UserSite.users_persistUsers : site.persistUsers.users = site.users := by
  unfold persistUsers
  split <;> rfl

@[simp] theorem UserSite.users_persistUser : (site.persistUser user).users = site.users := by
  unfold persistUser
  split <;> rfl

@[simp] theorem UserSite.users_saving {write : UserSite → UserSite}
    {outcome : Except AccountError Unit} (spares : (write site).users = site.users) :
    (site.saving write outcome).users = site.users := by
  cases outcome with
  | ok _ => exact spares
  | error fault => rfl

@[simp] theorem UserSite.backing_persistUsers : site.persistUsers.backing = site.backing := by
  unfold persistUsers
  split <;> rfl

@[simp] theorem UserSite.backing_persistUser :
    (site.persistUser user).backing = site.backing := by
  unfold persistUser
  split <;> rfl

@[simp] theorem UserSite.backing_saving {write : UserSite → UserSite}
    {outcome : Except AccountError Unit} (spares : (write site).backing = site.backing) :
    (site.saving write outcome).backing = site.backing := by
  cases outcome with
  | ok _ => exact spares
  | error fault => rfl

end Durable

/-- What a verified passkey assertion writes on the record. -/
structure PasskeyUse where
  credentialId : String
  signCount : Nat
  userVerified : Bool
  backup : PasskeyBackup
  stamp : String

/-- `ReAuth`, less the assertion and the code, whose verification is drawn. -/
structure ReAuth where
  password : Option String
  recoveryPhrase : Option String

/-- A request, with the name of the session it comes from where it acts on its own user. -/
inductive UserRequest where
  | assignRole (target : Uuid) (assignment : RoleAssignment)
  | unassignRole (target : Uuid) (assignment : RoleAssignment)
  | patchUser (target : Uuid) (request : PatchUser)
  | patchMeProfile (session : Option String) (request : PatchMyProfile)
  | suspendMe (session : Option String) (reauth : ReAuth)
  | createUser
  | credential (session : Option String) (target : Uuid) (operation : CredentialOperation)
      (offered : CurrentSecret)

/-- What a request finds and draws outside the users: what authorization answers, the setting
of the second factor, the fields of a new account that passed their checks, what the passkey
and the code of a step-up verify to, and how each write ends. -/
structure UserSurroundings where
  authorized : Except AccountError Unit
  totpEnabled : Bool
  fields : Except AccountError NewUser
  newId : Uuid
  createdAt : String
  assertion : Option PasskeyUse
  assertionSaved : Except AccountError Unit
  counterRegressed : Bool
  useSaved : Except AccountError Unit
  code : Except AccountError (Option Int)
  codeSaved : Except AccountError Unit
  draws : CredentialDraws
  cleared : Except AccountError Unit
  persisted : Except AccountError Unit
  recorded : Except AccountError Unit
  revoked : Except AccountError Unit

/-- What is left to do after the section, and the recovery phrase that was consumed. -/
structure Remainder where
  clearsPhone : Bool
  revokesSessions : Bool
  consumed : Option String

def LockedSection.remainder : LockedSection → Remainder
  | .credential _ change => ⟨change.clearsPhone, false, change.consumes⟩
  | .suspendMe _ => ⟨false, true, none⟩
  | _ => ⟨false, false, none⟩

/-- How far a request has got. -/
inductive UserStage where
  | arrived
  | read (requester : Option Uuid) (snapshot : Option UserRecord)
  | proving (me : UserRecord)
  | savingAssertion (me copy : UserRecord)
  | noting (me : UserRecord) (left : Nat)
  | savingUse (me copy : UserRecord) (left : Nat)
  | provingCode (me : UserRecord) (verified : Bool)
  | savingCode (me : UserRecord) (verified : Bool)
  | proved (me : UserRecord) (verified : Bool)
  | steppedUp
  | ready (section_ : LockedSection)
  | changed (rest : Remainder) (copy : UserRecord)
  | cleared (rest : Remainder) (copy : UserRecord)
  | persisted (rest : Remainder) (copy : UserRecord)
  | recorded (rest : Remainder) (copy : UserRecord)
  | answered (rest : Remainder) (copy : UserRecord)
  | refused (fault : AccountError)

namespace UserStage

def ofOutcome {α : Type} (next : α → UserStage) : Except AccountError α → UserStage
  | .ok value => next value
  | .error fault => .refused fault

end UserStage

def UserMap.named (users : UserMap) (username : String) : Option UserRecord :=
  users.values.find? fun user => user.username = username

def resolveMe (users : UserMap) (session : Option String) : Except AccountError UserRecord :=
  match session with
  | none => .error (.forbidden "chave API não abre uma sessão interativa"
      (some "api_key_no_interactive_session"))
  | some username =>
      match users.named username with
      | some user => .ok user
      | none => .error (.unauthorized "sessão inválida" (some "session_invalid"))

def stepUpRequired : AccountError :=
  .forbidden ("re-autenticação necessária: forneça a palavra-passe atual ou uma frase de "
    ++ "recuperação válida") none

def stepUpUser (users : UserMap) (session : Option String) : Except AccountError UserRecord :=
  match session.bind users.named with
  | some user => .ok user
  | none => .error stepUpRequired

/-- `decide_step_up`; the last argument is whether a passkey or a code proved the user. -/
def decideStepUp (me : UserRecord) (reauth : ReAuth) (verified : Bool) :
    Except AccountError Unit :=
  if stepUpIsVacuous (HeldCredentials.heldBy me) then .ok ()
  else if me.passwordHash.any (fun hash => reauth.password.any hash.verifySecret) then .ok ()
  else if me.recoveryHash.any (fun hash => reauth.recoveryPhrase.any hash.verifySecret) then .ok ()
  else if verified then .ok ()
  else .error stepUpRequired

/-- What `persist_assertion` writes on the record, if it has the credential. -/
def PasskeyUse.write (use : PasskeyUse) (user : UserRecord) : Option UserRecord :=
  (user.passkeys.findIdx? (·.credentialId = use.credentialId)).map fun index =>
    { user with
      passkeys := user.passkeys.modify index fun credential =>
        { credential with
          signCount := use.signCount
          userVerified := credential.userVerified || use.userVerified
          backup := use.backup
          lastUsedAt := some use.stamp } }

theorem PasskeyUse.eq_of_write {use : PasskeyUse} {user written : UserRecord}
    (wrote : use.write user = some written) :
    ∃ passkeys, written = { user with passkeys := passkeys } := by
  obtain ⟨index, -, rfl⟩ := Option.map_eq_some_iff.mp wrote
  exact ⟨_, rfl⟩

def writeAcceptedStep (step : Int) (user : UserRecord) : UserRecord :=
  { user with totp := user.totp.map fun enrolment =>
      { enrolment with lastAcceptedStep := some step } }

/-- What `patch_user` checks before the lock. -/
def admitPatch (request : PatchUser) (around : UserSurroundings) : Except AccountError Unit := do
  around.authorized
  Outcome.rejectIf (request.twoFactorRequired = some true ∧ around.totpEnabled = false)
    (.unprocessable ("auth.two_factor.totp_enabled tem de estar ativo antes de exigir um segundo "
      ++ "fator a uma conta; caso contrário a conta ficaria sem forma de o configurar"))

namespace UserSite

def arrive (request : UserRequest) (around : UserSurroundings) (site : UserSite) : UserStage :=
  match request with
  | .assignRole target assignment =>
      .ofOutcome (fun _ => .ready (.assignRole target assignment)) around.authorized
  | .unassignRole target assignment =>
      .ofOutcome (fun _ => .ready (.unassignRole target assignment)) around.authorized
  | .patchUser target request =>
      .ofOutcome (fun _ => .ready (.patchUser target request)) (admitPatch request around)
  | .patchMeProfile session request =>
      .ofOutcome (fun me => .ready (.patchMeProfile me.id request)) (resolveMe site.users session)
  | .suspendMe session _ => .ofOutcome .proving (stepUpUser site.users session)
  | .createUser =>
      .ofOutcome (fun fields => .ready (.createUser fields)) around.fields
  | .credential session target operation _ =>
      let snapshot := UserStage.read ((session.bind site.users.named).map UserRecord.id)
        (site.users.get target)
      match operation with
      | .setSecret password => .ofOutcome (fun _ => snapshot) (validateSecret password)
      | _ => snapshot

/-- Between the copy of a record and the lock: the change to be made, or the record as it was
where there is nothing to do. -/
def prepare (request : UserRequest) (around : UserSurroundings) (requester : Option Uuid)
    (snapshot : Option UserRecord) : UserStage :=
  match request with
  | .credential _ target operation offered =>
      match prepareCredential operation around.draws requester target snapshot offered,
          snapshot with
      | .ok (some change), _ => .ready (.credential target change)
      | .ok none, some user => .answered ⟨false, false, none⟩ user
      | .ok none, none => .refused .notFound
      | .error fault, _ => .refused fault
  | _ => .refused .notFound

def reauthOf : UserRequest → ReAuth
  | .suspendMe _ reauth => reauth
  | _ => ⟨none, none⟩

def sessionOf : UserRequest → Option String
  | .patchMeProfile session _ | .suspendMe session _ | .credential session _ _ _ => session
  | _ => none

/-- How often a verified assertion writes the record out again, beside the event it notes. -/
def notes (around : UserSurroundings) : Nat := if around.counterRegressed then 2 else 1

/-- What follows the section under the lock, one write after the other. -/
def finish (around : UserSurroundings) (site : UserSite) : UserStage → UserSite × UserStage
  | .changed rest copy =>
      (site, if rest.clearsPhone then .ofOutcome (fun _ => .cleared rest copy) around.cleared
        else .cleared rest copy)
  | .cleared rest copy =>
      (site.saving (·.persistUser copy) around.persisted,
        .ofOutcome (fun _ => .persisted rest copy) around.persisted)
  | .persisted rest copy => (site, .ofOutcome (fun _ => .recorded rest copy) around.recorded)
  | .recorded rest copy =>
      (site, if rest.revokesSessions then .ofOutcome (fun _ => .answered rest copy) around.revoked
        else .answered rest copy)
  | stage => (site, stage)

theorem backing_finish (around : UserSurroundings) (site : UserSite) (stage : UserStage) :
    (finish around site stage).1.backing = site.backing := by
  cases stage with
  | cleared rest copy => exact backing_saving backing_persistUser
  | _ => rfl

variable [Crates]

def serve (request : UserRequest) (around : UserSurroundings) (site : UserSite) :
    UserStage → UserSite × UserStage
  | .arrived => (site, site.arrive request around)
  | .read requester snapshot => (site, prepare request around requester snapshot)
  | .proving me =>
      match around.assertion with
      | none => (site, .provingCode me false)
      | some use =>
          match (site.users.get me.id).bind use.write with
          | none => (site, .noting me (notes around))
          | some copy => ({ site with users := site.users.insert copy }, .savingAssertion me copy)
  | .savingAssertion me copy =>
      (site.saving (·.persistUser copy) around.assertionSaved,
        match around.assertionSaved with
        | .ok _ => .noting me (notes around)
        | .error _ => .provingCode me false)
  | .noting me 0 => (site, .provingCode me true)
  | .noting me (left + 1) =>
      match site.users.get me.id with
      | none => (site, .noting me left)
      | some copy => (site, .savingUse me copy left)
  | .savingUse me copy left =>
      (site.saving (·.persistUser copy) around.useSaved, .noting me left)
  | .provingCode me verified =>
      match around.code, site.users.get me.id with
      | .error fault, _ => (site, .refused fault)
      | .ok none, _ => (site, .proved me verified)
      | .ok (some _), none => (site, .savingCode me verified)
      | .ok (some step), some user =>
          ({ site with users := site.users.insert (writeAcceptedStep step user) },
            .savingCode me verified)
  | .savingCode me _ =>
      (site.saving persistUsers around.codeSaved,
        .ofOutcome (fun _ => .proved me true) around.codeSaved)
  | .proved me verified =>
      (site, .ofOutcome (fun _ => .steppedUp) (decideStepUp me (reauthOf request) verified))
  | .steppedUp =>
      (site, .ofOutcome (fun me => .ready (.suspendMe me.id))
        (resolveMe site.users (sessionOf request)))
  | .ready section_ =>
      ({ site with users := (section_.run site.users around.newId around.createdAt).1 },
        .ofOutcome (.changed section_.remainder)
          (section_.run site.users around.newId around.createdAt).2)
  | stage => finish around site stage

theorem backing_serve (request : UserRequest) (around : UserSurroundings) (site : UserSite)
    (stage : UserStage) : (serve request around site stage).1.backing = site.backing := by
  cases stage with
  | savingAssertion me copy | savingUse me copy left => exact backing_saving backing_persistUser
  | savingCode me verified => exact backing_saving backing_persistUsers
  | noting me left =>
      cases left with
      | zero => rfl
      | succ left =>
          unfold serve
          dsimp only
          split <;> rfl
  | proving me =>
      unfold serve
      dsimp only
      split
      · rfl
      · split <;> rfl
  | provingCode me verified =>
      unfold serve
      dsimp only
      split <;> rfl
  | cleared rest copy => exact backing_finish around site _
  | _ => rfl

def serveRequests {ι : Type*} (requests : ι → UserRequest) (party : ι) (around : UserSurroundings)
    (site : UserSite) (stage : UserStage) : UserSite × UserStage :=
  serve (requests party) around site stage

end UserSite

end Chancela
