import Chancela.Authz.Role
import Chancela.Foundation.Outcome
import Chancela.Foundation.Table
import Chancela.Foundation.Text
import Chancela.Session.Totp

/-! # User records

The record of a user with every field the account endpoints read or write. A verifier is
kept as the secret it accepts with the salt it was made with, and a wrapped attestation key as
the scalar inside with the secret that opens it.
-/

namespace Chancela

/-- How a request on an account is refused. -/
inductive AccountError where
  | notFound
  | unauthorized (message : String) (code : Option String)
  | forbidden (message : String) (code : Option String)
  | conflict (message : String) (code : Option String)
  | unprocessable (message : String)
  | tooManyRequests (message : String)
  | unavailable (message : String)
  | internal (message : String)
deriving DecidableEq

/-- A verifier: the secret it accepts, and its salt. -/
structure SecretHash where
  accepts : String
  salt : Nat
deriving DecidableEq

def SecretHash.verifySecret (hash : SecretHash) (candidate : String) : Bool :=
  candidate = hash.accepts

/-- `RetiredAttestationKey`: the public half of a key, named by its scalar. -/
structure RetiredAttestationKey where
  scalar : Nat
  retiredAt : String
deriving DecidableEq

/-- `AttestationKeyBlob`: a scalar wrapped under a secret, with the salt of the wrap. -/
structure AttestationKeyBlob where
  scalar : Nat
  wrappedUnder : String
  salt : Nat
deriving DecidableEq

namespace AttestationKeyBlob

def unlock (blob : AttestationKeyBlob) (secret : String) : Except AccountError Nat :=
  if secret = blob.wrappedUnder then .ok blob.scalar
  else .error (.internal "attestation crypto failure: aead::Error")

/-- `AttestationKeyBlob::rewrap`, with the salt it draws. -/
def rewrap (blob : AttestationKeyBlob) (oldSecret newSecret : String) (salt : Nat) :
    Except AccountError AttestationKeyBlob :=
  (blob.unlock oldSecret).map fun scalar => ⟨scalar, newSecret, salt⟩

def retire (blob : AttestationKeyBlob) (retiredAt : String) : RetiredAttestationKey :=
  ⟨blob.scalar, retiredAt⟩

end AttestationKeyBlob

inductive SecretSource where
  | password
  | recovery
deriving DecidableEq

/-- `UserLanguage`: follow the environment, or a fixed locale. -/
inductive UserLanguage where
  | auto
  | fixed (locale : String)
deriving DecidableEq

inductive PasskeyBackup where
  | notEligible
  | eligible
  | exists_
deriving DecidableEq

/-- `PasskeyCredential`, with the fields an assertion writes. -/
structure PasskeyCredential where
  credentialId : String
  signCount : Nat
  userVerified : Bool
  backup : PasskeyBackup
  lastUsedAt : Option String
deriving DecidableEq

/-- The record of a user: `User`. -/
structure UserRecord where
  id : Uuid
  username : String
  displayName : String
  email : Option String
  createdAt : String
  active : Bool
  passwordHash : Option SecretHash
  attestationKey : Option AttestationKeyBlob
  retiredAttestationKeys : List RetiredAttestationKey
  secretSource : SecretSource
  recoveryHash : Option SecretHash
  roleAssignments : List RoleAssignment
  language : UserLanguage
  totp : Option TotpEnrolment
  twoFactorRequired : Bool
  forcePasswordChange : Bool
  passkeys : List PasskeyCredential
deriving DecidableEq

namespace UserRecord

def retireAttestationKey (user : UserRecord) (retiredAt : String) : UserRecord :=
  match user.attestationKey with
  | none => user
  | some blob =>
      { user with
        attestationKey := none
        retiredAttestationKeys :=
          if user.retiredAttestationKeys.any (·.scalar = blob.scalar) then
            user.retiredAttestationKeys
          else user.retiredAttestationKeys ++ [blob.retire retiredAt] }

/-- A user that keeps the instance administrable: active, with the Owner role at `Global`. -/
def isActiveOwner (user : UserRecord) : Bool :=
  user.active && user.roleAssignments.any (·.isOwnerAdmin)

end UserRecord

abbrev UserMap := Table UserRecord.id

def lastOwnerGuard (currentOwnerAdminHolders : Nat) : Bool := currentOwnerAdminHolders > 1

namespace UserMap

/-- `count_owner_admin_holders` over the active users. -/
def countOwnerAdminHolders (users : UserMap) : Nat :=
  let assigned := (users.values.filter UserRecord.active).flatMap fun user =>
    user.roleAssignments.map (user.id, ·)
  ((assigned.filter fun pair => pair.2.isOwnerAdmin).map Prod.fst).dedup.length

def countActive (users : UserMap) : Nat := (users.values.filter UserRecord.active).length

/-- An active user holds Owner at `Global`. -/
def OwnerRemains (users : UserMap) : Prop :=
  ∃ id user, users.get id = some user ∧ user.isActiveOwner = true

end UserMap

/-- Why an account may not be deactivated. -/
inductive DeactivationBlock where
  | lastActiveUser
  | lastActiveOwner
deriving DecidableEq

def deactivationBlock (users : UserMap) (target : UserRecord) : Option DeactivationBlock :=
  if !target.active then none
  else if users.countActive ≤ 1 then some .lastActiveUser
  else if target.roleAssignments.any (·.isOwnerAdmin) &&
      !lastOwnerGuard users.countOwnerAdminHolders then some .lastActiveOwner
  else none

def looksLikeEmail (value : String) : Bool :=
  let chars := value.toList
  let domain := (chars.dropWhile (· ≠ '@')).drop 1
  let trimmed := Text.trim (String.ofList domain)
  !chars.any Text.isWhitespace && chars.count '@' = 1 &&
    !Text.isBlank (String.ofList (chars.takeWhile (· ≠ '@'))) && trimmed ≠ "" &&
    trimmed.toList.getLast? ≠ some '.' && domain.contains '.'

def normalizeOptionalEmail (raw : Option String) (field : String) :
    Except AccountError (Option String) :=
  match raw with
  | none => .ok none
  | some value =>
      let email := Text.trim value
      if email = "" then .ok none
      else if Text.byteLen email > 254 then
        .error (.unprocessable (field ++ " must be at most 254 characters"))
      else if !looksLikeEmail email then
        .error (.unprocessable (field ++ " must look like an email address"))
      else .ok (some (String.ofList (email.toList.map Char.toLower)))

structure PatchUser where
  displayName : Option String
  email : Option (Option String)
  active : Option Bool
  language : Option UserLanguage
  twoFactorRequired : Option Bool

structure PatchMyProfile where
  displayName : Option String
  email : Option (Option String)
  language : Option UserLanguage

namespace UserRecord

variable (user : UserRecord)

def patchDisplayName : Option String → UserRecord
  | none => user
  | some displayName =>
      let trimmed := Text.trim displayName
      if trimmed = "" then user else { user with displayName := trimmed }

/-- The address as a request asks for it, or why it is refused. -/
def patchEmail : Option (Option String) → Except AccountError UserRecord
  | none => .ok user
  | some email => (normalizeOptionalEmail email "email").map fun email => { user with email }

def patchActive : Option Bool → UserRecord
  | none => user
  | some active => { user with active }

def patchLanguage : Option UserLanguage → UserRecord
  | none => user
  | some language => { user with language }

def patchTwoFactorRequired : Option Bool → UserRecord
  | none => user
  | some twoFactorRequired => { user with twoFactorRequired }

end UserRecord

end Chancela
