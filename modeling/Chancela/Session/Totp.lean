import Chancela.Foundation.Text
import Mathlib.Algebra.Group.Int.Defs

/-! # Time-based codes and backup codes

What a second factor is checked with: the codes a secret gives for the steps around an
instant, with the guard against replays, and the verifiers of the backup codes. HMAC-SHA1
and the password hash of the verifiers are parameters.
-/

namespace Chancela

/-- The crates a second factor is verified with. -/
class TotpCrates where
  /-- `Hmac<Sha1>` over a key and a message. -/
  hmacSha1 : List UInt8 → List UInt8 → List UInt8
  /-- `verify_secret`: a candidate against an argon2id verifier. -/
  verifySecret : String → String → Bool

structure TotpEnrolment where
  confirmed : Bool
  confirmedAt : Option String
  lastAcceptedStep : Option Int
  backupCodeHashes : List String
deriving DecidableEq

namespace TotpEnrolment

def pending : TotpEnrolment := ⟨false, none, none, []⟩

def isActive (enrolment : TotpEnrolment) : Bool := enrolment.confirmed

end TotpEnrolment

/-- The second factor of a user: the enrolment on the user's record, and the secret in the
credential store. -/
structure Factor where
  enrolment : Option TotpEnrolment
  secret : Option String
deriving DecidableEq

namespace Totp

def stepSeconds : Int := 30

def base32Alphabet : List Char := "ABCDEFGHIJKLMNOPQRSTUVWXYZ234567".toList

/-- `base32_decode` over the characters left, with the bits not yet written out. -/
def base32DecodeFrom : List Char → UInt32 → Nat → List UInt8 → Option (List UInt8)
  | [], _, _, out => some out.reverse
  | c :: rest, buffer, bits, out =>
      if c = '=' ∨ c = ' ' then base32DecodeFrom rest buffer bits out
      else
        match base32Alphabet.findIdx? (· = c.toUpper) with
        | none => none
        | some value =>
            let buffer := buffer <<< 5 ||| UInt32.ofNat value
            let bits := bits + 5
            if 8 ≤ bits then
              base32DecodeFrom rest buffer (bits - 8)
                ((buffer >>> UInt32.ofNat (bits - 8)).toUInt8 :: out)
            else base32DecodeFrom rest buffer bits out

def base32Decode (text : String) : Option (List UInt8) := base32DecodeFrom text.toList 0 0 []

/-- The eight bytes of a counter, the most significant first. -/
def toBeBytes (counter : UInt64) : List UInt8 :=
  (List.range 8).map fun place => (counter >>> UInt64.ofNat (8 * (7 - place))).toUInt8

def hotp [TotpCrates] (key : List UInt8) (counter : UInt64) : Nat :=
  let digest := TotpCrates.hmacSha1 key (toBeBytes counter)
  let offset := ((digest.getLastD 0) &&& 0x0f).toNat
  let byte place := (digest.getD (offset + place) 0).toNat
  (byte 0 % 128 * 2 ^ 24 + byte 1 * 2 ^ 16 + byte 2 * 2 ^ 8 + byte 3) % 1000000

def currentStep (unixSeconds : Int) : Int := unixSeconds / stepSeconds

/-- `code_at`. The counter of a step before the epoch is its two's complement. -/
def codeAt [TotpCrates] (secret : String) (unixSeconds stepOffset : Int) : Option Nat :=
  (base32Decode secret).map fun key =>
    hotp key (UInt64.ofNat ((currentStep unixSeconds + stepOffset) % 2 ^ 64).toNat)

def sixDigits (code : Nat) : String := String.ofList ((Nat.toDigits 10 code).leftpad 6 '0')

def isTotpShaped (trimmed : String) : Bool :=
  Text.byteLen trimmed = 6 && trimmed.toList.all Char.isDigit

inductive VerifyOutcome where
  | accepted (step : Int)
  | rejected
deriving DecidableEq

/-- `verify_code_against_secret`. The last step of the window that matches counts, and a step
already spent is passed over. -/
def verifyCodeAgainstSecret [TotpCrates] (secret code : String) (unixSeconds : Int)
    (lastAcceptedStep : Option Int) : VerifyOutcome :=
  let trimmed := Text.trim code
  if !isTotpShaped trimmed then .rejected
  else
    let matched := [-1, 0, 1].foldlM (fun (matched : Option Int) offset =>
      let step := currentStep unixSeconds + offset
      if lastAcceptedStep.any (fun last => step ≤ last) then some matched
      else (codeAt secret unixSeconds offset).map fun expected =>
        if trimmed = sixDigits expected then some step else matched) none
    match matched with
    | some (some step) => .accepted step
    | some none | none => .rejected

/-- What is compared with the verifiers of the backup codes. -/
def backupCandidate (presented : String) : String := (Text.trim presented).map Char.toUpper

def findMatchingBackupCode [TotpCrates] (hashes : List String) (presented : String) : Option Nat :=
  hashes.findIdx? (TotpCrates.verifySecret (backupCandidate presented))

end Totp

namespace Reference

/-- HMAC-SHA1 of the first three counters under the key `12345678901234567890`. No verifier
is an argon2id one. -/
scoped instance totpCrates : TotpCrates where
  hmacSha1 _ message :=
    [
      [204, 147, 207, 24, 80, 141, 148, 147, 76, 100, 182, 93, 139, 167, 102, 127, 183, 205, 228,
       176],
      [117, 164, 138, 25, 212, 203, 225, 0, 100, 78, 138, 193, 57, 126, 234, 116, 122, 45, 51,
       171],
      [11, 172, 183, 250, 8, 47, 239, 48, 120, 34, 17, 147, 139, 193, 197, 231, 4, 22, 255, 68]
    ].getD (message.getLastD 0).toNat []
  verifySecret _ _ := false

end Reference

end Chancela
