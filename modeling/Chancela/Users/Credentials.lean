import Chancela.Users.Record

/-! # Credentials

What an account holds that proves who its user is, what each kind of it can do, and the guard
on removing one. Then the four operations on the credentials of a user: how each is authorized
against a copy of the record, and the change it prepares to write under the lock.
-/

namespace Chancela

open Outcome

inductive CredentialKind where
  | password
  | recoveryPhrase
  | twoFactorTotp
  | passkey
deriving DecidableEq

namespace CredentialKind

def all : List CredentialKind := [.password, .recoveryPhrase, .twoFactorTotp, .passkey]

/-- `SessionRole::StartsSession`. -/
def startsSession : CredentialKind → Bool
  | .password | .passkey => true
  | .recoveryPhrase | .twoFactorTotp => false

/-- `RecoveryRole::RecoversAccount`. -/
def recoversAccount : CredentialKind → Bool
  | .recoveryPhrase => true
  | .password | .twoFactorTotp | .passkey => false

def satisfiesKeyCustody : CredentialKind → Bool
  | .password => true
  | .recoveryPhrase | .twoFactorTotp | .passkey => false

def isHeldBy (user : UserRecord) : CredentialKind → Bool
  | .password => user.passwordHash.isSome
  | .recoveryPhrase => user.recoveryHash.isSome
  | .twoFactorTotp => user.totp.any TotpEnrolment.isActive
  | .passkey => !user.passkeys.isEmpty

def namePt : CredentialKind → String
  | .password => "palavra-passe"
  | .recoveryPhrase => "frase de recuperação"
  | .twoFactorTotp => "código do autenticador"
  | .passkey => "chave de acesso"

end CredentialKind

/-- `HeldCredentials`: the kinds an account holds, in the order of `CredentialKind::ALL`. -/
abbrev HeldCredentials := List CredentialKind

namespace HeldCredentials

def heldBy (user : UserRecord) : HeldCredentials :=
  CredentialKind.all.filter (CredentialKind.isHeldBy user)

/-- `with`. -/
def with_ (held : HeldCredentials) (kind : CredentialKind) : HeldCredentials :=
  CredentialKind.all.filter fun other => decide (other ∈ held ∨ other = kind)

def without (held : HeldCredentials) (kind : CredentialKind) : HeldCredentials :=
  held.filter fun other => decide (other ≠ kind)

def describePt (held : HeldCredentials) : String :=
  if held = [] then "nenhuma" else ", ".intercalate (held.map CredentialKind.namePt)

end HeldCredentials

/-- `step_up_is_vacuous`: every kind counts toward a step-up. -/
def stepUpIsVacuous (held : HeldCredentials) : Bool := held.isEmpty

def ensureRemovalLeavesAccountUsable (before after : HeldCredentials) (keyHeld : Bool) :
    Except AccountError Unit := do
  let removed := before.filter fun kind => decide (kind ∉ after)
  if removed = [] then return ()
  rejectIf (before.any CredentialKind.startsSession ∧ ¬after.any CredentialKind.startsSession)
    (.conflict ("operação recusada: removeria a última credencial com que esta conta pode iniciar "
      ++ "sessão. Credenciais que restariam: " ++ after.describePt
      ++ ". Estabeleça outra forma de iniciar sessão antes de remover esta.")
      (some "account_would_have_no_sign_in_credential"))
  rejectIf (removed.any CredentialKind.startsSession ∧ ¬after.any CredentialKind.recoversAccount)
    (.conflict ("operação recusada: removeria uma credencial de início de sessão sem que a conta "
      ++ "ficasse com forma de ser recuperada. Credenciais que restariam: " ++ after.describePt
      ++ ". Emita uma frase de recuperação antes de remover esta credencial.")
      (some "account_would_have_no_recovery_credential"))
  rejectIf (keyHeld ∧ before.any CredentialKind.satisfiesKeyCustody ∧
      ¬after.any CredentialKind.satisfiesKeyCustody)
    (.conflict ("operação recusada: a chave de atestação desta conta deixaria de ter qualquer "
      ++ "proteção que se possa abrir, e as assinaturas futuras seriam impossíveis. Credenciais "
      ++ "que restariam: " ++ after.describePt
      ++ ". A palavra-passe protege a chave mesmo quando não é usada para iniciar sessão, por "
      ++ "isso não pode ser removida enquanto a chave existir.")
      (some "account_attestation_key_would_have_no_wrap"))

/-- `ProofKind`: which proof authorized an operation on another user's credentials. -/
inductive ProofKind where
  | password
  | recovery
deriving DecidableEq

inductive SecretAuthz where
  | selfService
  | crossUser (proof : ProofKind)
deriving DecidableEq

/-- What a request offers as proof. -/
structure CurrentSecret where
  currentPassword : Option String
  recoveryPhrase : Option String

/-- `dummy_phc`: verified against when there is nothing else to verify against. -/
def dummyPhc : SecretHash := ⟨"chancela::t51::constant-work::dummy-verifier", 0⟩

def constantWorkVerify (stored : Option SecretHash) (provided : Option String) : Bool :=
  (stored.getD dummyPhc).verifySecret (provided.getD "")

def crossUserForbidden : AccountError :=
  .forbidden ("não autorizado a alterar as credenciais de outro utilizador sem a palavra-passe "
    ++ "atual ou uma frase de recuperação válida") (some "cross_user_proof_required")

def verifyCrossUserProof (target : Option UserRecord) (offered : CurrentSecret) :
    Except AccountError ProofKind :=
  if constantWorkVerify (target.bind UserRecord.passwordHash) offered.currentPassword then
    .ok .password
  else if constantWorkVerify (target.bind UserRecord.recoveryHash) offered.recoveryPhrase then
    .ok .recovery
  else .error crossUserForbidden

def verifyCurrent (user : UserRecord) (provided : Option String) : Except AccountError Unit :=
  match user.passwordHash with
  | none => .ok ()
  | some hash =>
      if provided.any hash.verifySecret then .ok ()
      else .error (.unauthorized "palavra-passe atual incorreta" none)

/-- The operations on the credentials of a user. -/
inductive CredentialOperation where
  | setSecret (password : String)
  | generateAttestationKey
  | removeAttestationKey
  | issueRecovery

/-- What such an operation finds and draws outside the users: the session is an API key, the
throttle of the requester and the target, the permission and the password policy, a scalar and
a phrase drawn at random, the salts, and the time. -/
structure CredentialDraws where
  isApiKey : Bool
  throttle : Except AccountError Unit
  managed : Except AccountError Unit
  policy : Except AccountError Unit
  scalar : Nat
  phrase : String
  salt : Nat
  retiredAt : String

/-- What an operation writes under the lock. -/
inductive CredentialChange where
  | setSecret (rewrapped : Option AttestationKeyBlob) (dropKey : Bool) (newHash : SecretHash)
      (source : SecretSource) (consumes : Option String) (retiredAt : String)
  | installKey (newKey : AttestationKeyBlob) (retiredAt : String)
  | removeKey (consumes : Option String) (retiredAt : String)
  | issueRecovery (verifier : SecretHash)

namespace CredentialChange

def apply (change : CredentialChange) (user : UserRecord) : UserRecord :=
  match change with
  | .setSecret rewrapped dropKey newHash source consumes retiredAt =>
      let user :=
        match rewrapped with
        | some blob => { user with attestationKey := some blob }
        | none => user
      let user := if dropKey then user.retireAttestationKey retiredAt else user
      { user with
        passwordHash := some newHash
        secretSource := source
        recoveryHash := if consumes.isSome then none else user.recoveryHash
        forcePasswordChange := false }
  | .installKey newKey retiredAt =>
      { user.retireAttestationKey retiredAt with attestationKey := some newKey }
  | .removeKey consumes retiredAt =>
      let user := user.retireAttestationKey retiredAt
      { user with recoveryHash := if consumes.isSome then none else user.recoveryHash }
  | .issueRecovery verifier => { user with recoveryHash := some verifier }

/-- The recovery phrase that authorized the change, where it is consumed. -/
def consumes : CredentialChange → Option String
  | .setSecret _ _ _ _ consumes _ | .removeKey consumes _ => consumes
  | .installKey _ _ | .issueRecovery _ => none

/-- The saved number sealed to the key goes with it: `cmd_phone::clear_for_user_id`. -/
def clearsPhone : CredentialChange → Bool
  | .setSecret _ dropKey _ _ _ _ => dropKey
  | .installKey _ _ | .removeKey _ _ => true
  | .issueRecovery _ => false

end CredentialChange

/-- `authorize_secret_op_throttled`. -/
def authorizeSecretOp (draws : CredentialDraws) (requester : Option Uuid) (targetId : Uuid)
    (target : Option UserRecord) (offered : CurrentSecret) : Except AccountError SecretAuthz := do
  rejectIf (draws.isApiKey = true)
    (.forbidden "chave API não abre uma sessão interativa" (some "api_key_no_interactive_session"))
  if requester = some targetId ∧ target.isSome then return .selfService
  draws.throttle
  let proof ← verifyCrossUserProof target offered
  return .crossUser proof

/-- An operation on the credentials of another user asks for `user.manage` besides. -/
def requireManaged (draws : CredentialDraws) : SecretAuthz → Except AccountError Unit
  | .selfService => .ok ()
  | .crossUser _ => draws.managed

def SecretAuthz.consumes (decision : SecretAuthz) (offered : CurrentSecret) : Option String :=
  match decision with
  | .crossUser .recovery => some (offered.recoveryPhrase.getD "")
  | _ => none

def validateSecret (secret : String) : Except AccountError Unit := do
  rejectIf (secret.length < 8)
    (.unprocessable "sign-in secret must be at least 8 characters")
  rejectIf (secret.length > 256)
    (.unprocessable "sign-in secret must be at most 256 characters")

/-- `set_secret` between the copy of the record and the lock. -/
def prepareSetSecret (draws : CredentialDraws) (decision : SecretAuthz)
    (snapshot : Option UserRecord) (password : String) (offered : CurrentSecret) :
    Except AccountError CredentialChange := do
  let snapshot ← match snapshot with
    | some snapshot => .ok snapshot
    | none => .error crossUserForbidden
  draws.policy
  let changing := snapshot.passwordHash.isSome
  if decision = .selfService ∧ changing then verifyCurrent snapshot offered.currentPassword
  let newHash : SecretHash := ⟨password, draws.salt⟩
  let dropKey := decision = .crossUser .recovery
  let rewrapped ←
    if dropKey = true ∨ changing = false then .ok none
    else match snapshot.attestationKey with
      | none => .ok none
      | some blob =>
          (blob.rewrap (offered.currentPassword.getD "") password draws.salt).map some
  let source := if dropKey then SecretSource.recovery else .password
  let before := HeldCredentials.heldBy snapshot
  let after := before.with_ .password
  let after := if dropKey then after.without .recoveryPhrase else after
  ensureRemovalLeavesAccountUsable before after (!dropKey && snapshot.attestationKey.isSome)
  return .setSecret rewrapped dropKey newHash source (decision.consumes offered) draws.retiredAt

/-- `generate_attestation_key` between the copy of the record and the lock. -/
def prepareGenerate (draws : CredentialDraws) (decision : SecretAuthz)
    (snapshot : Option UserRecord) (offered : CurrentSecret) :
    Except AccountError CredentialChange := do
  match decision with
  | .selfService =>
      match snapshot with
      | none => .error .notFound
      | some user => do
          rejectIf (user.passwordHash = none)
            (.conflict "set a sign-in secret before generating an attestation key" none)
          verifyCurrent user offered.currentPassword
  | .crossUser .password => .ok ()
  | .crossUser .recovery =>
      .error (.forbidden ("não é possível gerar uma chave de atestação sem a palavra-passe atual "
        ++ "do utilizador") (some "cross_user_recovery_cannot_generate_key"))
  return .installKey ⟨draws.scalar, offered.currentPassword.getD "", draws.salt⟩ draws.retiredAt

/-- `remove_attestation_key` between the copy of the record and the lock; without a key of one's
own there is nothing to write. -/
def prepareRemove (draws : CredentialDraws) (decision : SecretAuthz)
    (snapshot : Option UserRecord) (offered : CurrentSecret) :
    Except AccountError (Option CredentialChange) := do
  let change := CredentialChange.removeKey (decision.consumes offered) draws.retiredAt
  match decision, snapshot with
  | .selfService, none => .error .notFound
  | .selfService, some user =>
      if user.attestationKey = none then return none
      verifyCurrent user offered.currentPassword
      return some change
  | .crossUser .recovery, none => .error .notFound
  | .crossUser .recovery, some user =>
      let before := HeldCredentials.heldBy user
      ensureRemovalLeavesAccountUsable before (before.without .recoveryPhrase) false
      return some change
  | .crossUser .password, _ => return some change

/-- `issue_recovery` between the copy of the record and the lock. -/
def prepareIssueRecovery (draws : CredentialDraws) (decision : SecretAuthz)
    (snapshot : Option UserRecord) (offered : CurrentSecret) :
    Except AccountError CredentialChange := do
  match decision, snapshot with
  | .selfService, none => .error .notFound
  | .selfService, some user => verifyCurrent user offered.currentPassword
  | .crossUser _, _ => .ok ()
  return .issueRecovery ⟨draws.phrase, draws.salt⟩

/-- An operation between the copy of the record and the lock: the change it writes, if any. -/
def prepareCredential (operation : CredentialOperation) (draws : CredentialDraws)
    (requester : Option Uuid) (targetId : Uuid) (snapshot : Option UserRecord)
    (offered : CurrentSecret) : Except AccountError (Option CredentialChange) := do
  let decision ← authorizeSecretOp draws requester targetId snapshot offered
  requireManaged draws decision
  match operation with
  | .setSecret password => (prepareSetSecret draws decision snapshot password offered).map some
  | .generateAttestationKey => (prepareGenerate draws decision snapshot offered).map some
  | .removeAttestationKey => prepareRemove draws decision snapshot offered
  | .issueRecovery => (prepareIssueRecovery draws decision snapshot offered).map some

end Chancela
