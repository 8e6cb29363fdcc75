import Chancela.Authz.Role
import Chancela.Foundation.Keyed
import Chancela.Foundation.Run

/-! # Signing in with a second factor

`POST /v1/session` and `POST /v1/session/challenge` with the throttles around them: the
backoff of a node, the failures the shared limiter counts for a user, and the pending
challenges with their own attempts. The password clears the counter before the second factor
is asked for, and a challenge is completed without a look at it, so the counter bounds the
wrong codes only where neither happens with failures on record
(`Chancela.SignIns.wrong_le`).
-/

namespace Chancela

def globalSigninFailureCap : Nat := 50

def twoFactorMaxAttempts : Nat := 5

def second : Int := 1000000000

def twoFactorChallengeTtlSecs : Int := 5 * 60

/-- The window of the shared limiter for failed sign-ins: fifteen minutes. -/
def signinWindowSecs : Int := 15 * 60

inductive RateLimitOutcome where
  | notShared
  | count (failures : Nat)
  | unavailable
deriving DecidableEq

def globalLimitBlocks : RateLimitOutcome → Nat → Bool
  | .count failures, cap => cap ≤ failures
  | _, _ => false

/-- A counter of the shared limiter with the end of its window. -/
structure Counter where
  count : Nat
  expiresAt : Int
deriving DecidableEq

namespace Counter

/-- The counter a command of the shared store finds at an instant. -/
def live (counter : Option Counter) (now : Int) : Option Counter :=
  counter.filter fun counter => now < counter.expiresAt

/-- `RedisRateLimiter::record_failure`: the first failure arms the window. -/
def recordFailure (counter : Option Counter) (windowSecs now : Int) : Counter :=
  match live counter now with
  | some counter => { counter with count := counter.count + 1 }
  | none => ⟨1, now + windowSecs * second⟩

/-- `RedisRateLimiter::peek`, which reads the count as an `u32`. -/
def peek (counter : Option Counter) (now : Int) : RateLimitOutcome :=
  match live counter now with
  | some counter => .count (counter.count % 2 ^ 32)
  | none => .count 0

end Counter

/-- The backoff of one user on the node. -/
structure Backoff where
  fails : Nat
  nextAllowedAt : Int
deriving DecidableEq

def backoffSecs (fails : Nat) : Int :=
  min ([1, 2, 4, 8, 16, 32, 64].getD (min (fails - 1) 6) 64) 30

/-- A sign-in that waits for its second factor. -/
structure PendingTwoFactor where
  userId : Uuid
  unlockedKey : Option (List UInt8)
  expiresAt : Int
  fails : Nat
deriving DecidableEq

/-- The throttles and the pending challenges. -/
structure SignIns where
  limiter : Keyed Uuid Counter
  backoff : Keyed Uuid Backoff
  pending : Keyed Uuid PendingTwoFactor

/-- An account an identifier was resolved to, as the sign-in reads it after the password:
what the hash upgrade and the unlocking of the key give, whether the second factor is
confirmed, and whether backup codes are left. -/
structure Account where
  unlocked : Option (Option (List UInt8))
  confirmed : Bool
  backupCodes : Bool

/-- A call of `create_session`: the throttle key the identifier gives, the account if there
is one, whether the password verifies, and the identifier drawn for a challenge. -/
structure PasswordAttempt where
  uid : Uuid
  account : Option Account
  verified : Bool
  drawn : Uuid
  now : Int

/-- A call of `complete_two_factor_challenge`, with what the verification of the code
answers. -/
structure CodeAttempt where
  challengeId : Uuid
  accepted : Option Bool
  now : Int

/-- How a call ends. -/
inductive SignInOutcome where
  | throttled
  | waiting (seconds : Int)
  | invalidCredentials
  | internal
  | twoFactorRequired (challengeId : Uuid) (methods : List String) (expiresAt : Int)
  | authenticated (unlockedKey : Option (List UInt8))
  | invalidChallenge
  | invalidCode (user : Uuid)
deriving DecidableEq

namespace SignIns

variable (signIns : SignIns)

/-- The pending challenges once the expired ones are pruned. -/
def pruned (now : Int) : Keyed Uuid PendingTwoFactor :=
  signIns.pending.retain fun _ record => now < record.expiresAt

def backoffEntry (uid : Uuid) (now : Int) : Backoff := (signIns.backoff uid).getD ⟨0, now⟩

/-- A wrong password: the backoff grows and the shared limiter counts it. -/
def refusePassword (uid : Uuid) (now : Int) : SignIns :=
  let entry := signIns.backoffEntry uid now
  { signIns with
    backoff := signIns.backoff.insert uid
      ⟨entry.fails + 1, now + backoffSecs (entry.fails + 1) * second⟩
    limiter := signIns.limiter.insert uid
      (Counter.recordFailure (signIns.limiter uid) signinWindowSecs now) }

def clearThrottles (uid : Uuid) : SignIns :=
  { signIns with
    backoff := signIns.backoff.erase uid
    limiter := signIns.limiter.erase uid }

def signIn (attempt : PasswordAttempt) (account : Account) : SignIns × SignInOutcome :=
  match account.unlocked with
  | none => (signIns, .internal)
  | some unlockedKey =>
      if account.confirmed then
        let expiresAt := attempt.now + twoFactorChallengeTtlSecs * second
        ({ signIns with
            pending := (signIns.pruned attempt.now).insert attempt.drawn
              ⟨attempt.uid, unlockedKey, expiresAt, 0⟩ },
          .twoFactorRequired attempt.drawn
            ("totp" :: if account.backupCodes then ["backup_code"] else []) expiresAt)
      else (signIns, .authenticated unlockedKey)

def createSession (attempt : PasswordAttempt) : SignIns × SignInOutcome :=
  if globalLimitBlocks (Counter.peek (signIns.limiter attempt.uid) attempt.now)
      globalSigninFailureCap then (signIns, .throttled)
  else
    let entry := signIns.backoffEntry attempt.uid attempt.now
    if attempt.now < entry.nextAllowedAt then
      ({ signIns with backoff := signIns.backoff.insert attempt.uid entry },
        .waiting (max (((entry.nextAllowedAt - attempt.now) / 1000000 + 999) / 1000) 1))
    else if attempt.verified = false then
      (signIns.refusePassword attempt.uid attempt.now, .invalidCredentials)
    else
      match attempt.account with
      | none =>
          ({ signIns with backoff := signIns.backoff.insert attempt.uid entry },
            .invalidCredentials)
      | some account => (signIns.clearThrottles attempt.uid).signIn attempt account

def completeTwoFactorChallenge (attempt : CodeAttempt) : SignIns × SignInOutcome :=
  let pruned := signIns.pruned attempt.now
  match pruned attempt.challengeId with
  | none => ({ signIns with pending := pruned }, .invalidChallenge)
  | some record =>
      let taken := pruned.erase attempt.challengeId
      match attempt.accepted with
      | none => ({ signIns with pending := taken }, .internal)
      | some true => ({ signIns with pending := taken }, .authenticated record.unlockedKey)
      | some false =>
          ({ signIns with
              limiter := signIns.limiter.insert record.userId
                (Counter.recordFailure (signIns.limiter record.userId) signinWindowSecs
                  attempt.now)
              pending :=
                if record.fails + 1 < twoFactorMaxAttempts then
                  taken.insert attempt.challengeId { record with fails := record.fails + 1 }
                else taken },
            .invalidCode record.userId)

end SignIns

end Chancela
