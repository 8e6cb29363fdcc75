import Chancela.Crates.Base64
import Chancela.Crates.Basic
import Chancela.Crates.Instant
import Chancela.Foundation.TableHistory

/-! # Emailed tokens

The store behind invitations, recovery links and emailed confirmations. A token is issued for
a purpose and a subject, supersedes the earlier ones of both, and is kept as the digest of its
secret; presenting the secret takes it out of the store, whatever comes of it.
-/

namespace Chancela

inductive AuthTokenPurpose where
  | invite
  | passwordRecovery
  | twoFactorEmailCode
  | devicePairingConfirmation
deriving DecidableEq

/-- `AuthTokenPurpose::ttl_bounds`, the inclusive bounds of a lifetime. -/
def AuthTokenPurpose.ttlBounds : AuthTokenPurpose → Int × Int
  | .invite => (Duration.hours 1, Duration.days 30)
  | .passwordRecovery => (Duration.minutes 5, Duration.hours 1)
  | .twoFactorEmailCode => (Duration.minutes 2, Duration.minutes 30)
  | .devicePairingConfirmation => (Duration.minutes 5, Duration.minutes 30)

def AuthTokenPurpose.clampTtl (purpose : AuthTokenPurpose) (requested : Int) : Int :=
  Duration.clamp requested purpose.ttlBounds.1 purpose.ttlBounds.2

theorem AuthTokenPurpose.ordered_ttlBounds (purpose : AuthTokenPurpose) :
    0 ≤ purpose.ttlBounds.1 ∧ purpose.ttlBounds.1 ≤ purpose.ttlBounds.2 := by
  cases purpose <;> decide

theorem AuthTokenPurpose.clampTtl_bounds (purpose : AuthTokenPurpose) (requested : Int) :
    purpose.ttlBounds.1 ≤ purpose.clampTtl requested ∧
      purpose.clampTtl requested ≤ purpose.ttlBounds.2 :=
  Duration.le_clamp purpose.ordered_ttlBounds.2

/-- `AuthTokenSubject`: an account, or an address that has none yet. -/
inductive AuthTokenSubject where
  | user (id : Uuid)
  | email (address : String)
deriving DecidableEq

structure AuthTokenVerifier where
  bytes : Digest
deriving DecidableEq

def AuthTokenVerifier.of [Crates] (presented : String) : AuthTokenVerifier :=
  ⟨sha256 (Text.utf8 presented)⟩

/-- `AuthTokenVerifier::matches`: the differences of all bytes, gathered. -/
def AuthTokenVerifier.matches_ (verifier other : AuthTokenVerifier) : Bool :=
  (verifier.bytes.toList.zip other.bytes.toList).foldl
    (fun diff pair => diff ||| (pair.1 ^^^ pair.2)) (0 : UInt8) = 0

theorem foldl_or_xor_eq_zero_iff {first second : List UInt8} {diff : UInt8}
    (aligned : first.length = second.length) :
    (first.zip second).foldl (fun diff pair => diff ||| (pair.1 ^^^ pair.2)) diff = 0 ↔
      diff = 0 ∧ first = second := by
  induction first generalizing second diff with
  | nil =>
      obtain rfl := List.length_eq_zero_iff.mp aligned.symm
      simp only [List.zip_nil_right, List.foldl_nil, and_true]
  | cons byte rest ih =>
      cases second with
      | nil => cases aligned
      | cons other others =>
          have tails : rest.length = others.length := Nat.succ.inj aligned
          rw [List.zip_cons_cons, List.foldl_cons, ih tails, UInt8.or_eq_zero_iff,
            UInt8.xor_eq_zero_iff, List.cons.injEq, and_assoc]

theorem AuthTokenVerifier.matches_iff {verifier other : AuthTokenVerifier} :
    verifier.matches_ other = true ↔ verifier = other := by
  have aligned : verifier.bytes.toList.length = other.bytes.toList.length := by
    rw [length_digest, length_digest]
  unfold matches_
  rw [decide_eq_true_iff, foldl_or_xor_eq_zero_iff aligned]
  constructor
  · intro ⟨_, same⟩
    exact congrArg AuthTokenVerifier.mk (Vector.toList_inj.mp same)
  · intro same
    exact ⟨rfl, same ▸ rfl⟩

structure AuthTokenRecord where
  id : Uuid
  purpose : AuthTokenPurpose
  subject : AuthTokenSubject
  issuedAt : Instant
  expiresAt : Instant
  verifier : AuthTokenVerifier
deriving DecidableEq

def AuthTokenRecord.isLiveAt (record : AuthTokenRecord) (now : Instant) : Bool :=
  now < record.expiresAt

inductive AuthTokenError where
  | invalid
deriving DecidableEq

/-- `AuthTokenStore`, the records by their verifiers. -/
abbrev AuthTokenStore := Table AuthTokenRecord.verifier

def transcribableAlphabet : List Char := "ABCDEFGHJKMNPQRSTUVWXYZ23456789".toList

/-- `transcribable_symbol` on a byte drawn; one above the unbiased ceiling is drawn again. -/
def transcribableSymbol (drawn : UInt8) : Option Char :=
  if drawn < 248 then transcribableAlphabet[drawn.toNat % transcribableAlphabet.length]?
  else none

/-- `transcribable_secret` on the bytes drawn: sixteen symbols in groups of four. -/
def transcribableSecret (drawn : List UInt8) : String :=
  String.ofList (((drawn.filterMap transcribableSymbol).take 16).zipIdx.flatMap fun symbol =>
    if 0 < symbol.2 ∧ symbol.2 % 4 = 0 then ['-', symbol.1] else [symbol.1])

namespace AuthTokenStore

/-- A `retain` that returns how many records it dropped. -/
def dropUnless (store : AuthTokenStore) (keep : AuthTokenRecord → Bool) : AuthTokenStore × Nat :=
  (store.retain keep, store.size - (store.retain keep).size)

def pruneExpired (store : AuthTokenStore) (now : Instant) : AuthTokenStore × Nat :=
  store.dropUnless fun record => record.isLiveAt now

def invalidatePurposeForSubject (store : AuthTokenStore) (purpose : AuthTokenPurpose)
    (subject : AuthTokenSubject) : AuthTokenStore × Nat :=
  store.dropUnless fun record => !(record.purpose == purpose && record.subject == subject)

def invalidateSubject (store : AuthTokenStore) (subject : AuthTokenSubject) :
    AuthTokenStore × Nat :=
  store.dropUnless fun record => record.subject != subject

def invalidateUser (store : AuthTokenStore) (userId : Uuid) : AuthTokenStore × Nat :=
  store.invalidateSubject (.user userId)

variable [Crates]

def recordOf (purpose : AuthTokenPurpose) (subject : AuthTokenSubject) (ttl : Int)
    (now : Instant) (id : Uuid) (plaintext : String) : AuthTokenRecord where
  id
  purpose
  subject
  issuedAt := now
  expiresAt := now.saturatingAdd (purpose.clampTtl ttl)
  verifier := .of plaintext

/-- Issue a token with this secret: what has expired and what it supersedes goes first. -/
def issueSecret (store : AuthTokenStore) (purpose : AuthTokenPurpose) (subject : AuthTokenSubject)
    (ttl : Int) (now : Instant) (id : Uuid) (plaintext : String) :
    AuthTokenStore × String × AuthTokenRecord :=
  let pruned := (store.pruneExpired now).1
  let superseded := (AuthTokenStore.invalidatePurposeForSubject pruned purpose subject).1
  let record := recordOf purpose subject ttl now id plaintext
  (superseded.insert record, plaintext, record)

/-- `issue`, on the bytes drawn. -/
def issue [Base64Crate] (store : AuthTokenStore) (purpose : AuthTokenPurpose)
    (subject : AuthTokenSubject) (ttl : Int) (now : Instant) (id : Uuid)
    (drawn : Vector UInt8 32) : AuthTokenStore × String × AuthTokenRecord :=
  issueSecret store purpose subject ttl now id
    (String.ofList (Base64Crate.urlSafeNoPad.encode drawn.toList))

/-- `issue_transcribable`, on the bytes drawn. -/
def issueTranscribable (store : AuthTokenStore) (purpose : AuthTokenPurpose)
    (subject : AuthTokenSubject) (ttl : Int) (now : Instant) (id : Uuid) (drawn : List UInt8) :
    AuthTokenStore × String × AuthTokenRecord :=
  issueSecret store purpose subject ttl now id (transcribableSecret drawn)

/-- `redeem`: the record is taken out before anything is checked. -/
def redeem (store : AuthTokenStore) (purpose : AuthTokenPurpose) (presented : String)
    (now : Instant) : AuthTokenStore × Except AuthTokenError AuthTokenRecord :=
  let verifier := AuthTokenVerifier.of presented
  match store.get verifier with
  | none => (store, .error .invalid)
  | some record =>
      (store.erase verifier,
        if !record.verifier.matches_ verifier || record.purpose != purpose ||
            !record.isLiveAt now then
          .error .invalid
        else .ok record)

end AuthTokenStore

end Chancela
