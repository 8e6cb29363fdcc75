import Chancela.Crates.Base64
import Chancela.Crates.Basic
import Chancela.Foundation.Outcome

/-! # Manifests of opaque objects

What the server stores for one version of an object it cannot read, and the checks it makes of
it: the nonce under which the content was encrypted, the envelope of encrypted metadata with a
nonce of its own, and the key slots that say under which keys.
-/

namespace Chancela.Zk

open Outcome

def manifestSchemaVersion : Nat := 1

def aesGcmNonceLen : Nat := 12

def sha256HexLen : Nat := 64

def maxEnvelopeBytes : Nat := 1048576

def maxWrappedKeyBytes : Nat := 16384

def maxKeySlots : Nat := 64

def maxLabelBytes : Nat := 256

/-- `ContractError`, as far as manifests can cause it. -/
inductive ContractError where
  | unsupportedSchema (version : Nat)
  | invalidLabel (name : String)
  | invalidBase64 (name : String)
  | invalidNonce
  | invalidDigest
  | digestMismatch
  | emptyCiphertext
  | zeroObjectVersion
  | wrappedKeyTooShort
  | recipientAlgorithmMismatch
  | invalidKeySlotCount
  | duplicateKeySlot
  | duplicateRecipient
  | nonceReuse
deriving DecidableEq, Repr

structure AssociatedData where
  repositoryId : Uuid
  objectId : Uuid
  version : Nat
deriving DecidableEq, Repr

structure EncryptedMetadataEnvelope where
  nonceBase64 : String
  ciphertextBase64 : String
  ciphertextSha256 : String
deriving DecidableEq, Repr

inductive KeyWrappingAlgorithm where
  | aes256KwByok
  | hkdfSha256Aes256KwWebauthnPrf
  | aes256KwSplitRecovery
  | rsaOaepSha256Recipient
deriving DecidableEq, Repr

inductive KeyRecipientKind where
  | bringYourOwnKey
  | webauthnCredential
  | splitRecoveryPlan
  | externalRecipient
deriving DecidableEq, Repr

def KeyRecipientKind.algorithm : KeyRecipientKind → KeyWrappingAlgorithm
  | bringYourOwnKey => .aes256KwByok
  | webauthnCredential => .hkdfSha256Aes256KwWebauthnPrf
  | splitRecoveryPlan => .aes256KwSplitRecovery
  | externalRecipient => .rsaOaepSha256Recipient

structure WrappedContentEncryptionKey where
  slotId : Uuid
  recipientKind : KeyRecipientKind
  recipientId : String
  algorithm : KeyWrappingAlgorithm
  keyReference : String
  wrappedCekBase64 : String
deriving DecidableEq, Repr

structure OpaqueBlobManifest where
  schemaVersion : Nat
  associatedData : AssociatedData
  nonceBase64 : String
  ciphertextSha256 : String
  ciphertextLen : Nat
  encryptedMetadata : Option EncryptedMetadataEnvelope
  wrappedKeys : List WrappedContentEncryptionKey
deriving DecidableEq, Repr

/-- `str::to_lowercase`. -/
class StrCase where
  toLowercase : String → String

def validateLabel (name value : String) : Except ContractError Unit :=
  let trimmed := Text.trim value
  if trimmed = "" ∨ maxLabelBytes < Text.byteLen trimmed ∨ '\x00' ∈ trimmed.toList then
    .error (.invalidLabel name)
  else .ok ()

def validateDigestSyntax (value : String) : Except ContractError Unit :=
  if Text.byteLen value = sha256HexLen ∧ (Text.utf8 value).all fun byte =>
      (48 ≤ byte && byte ≤ 57) || (97 ≤ byte && byte ≤ 102) then .ok ()
  else .error .invalidDigest

section Validate

variable [Base64Crate]

def decodeBounded (name value : String) (maxDecodedLen : Nat) :
    Except ContractError (List UInt8) :=
  if maxDecodedLen * 2 < Text.byteLen value then .error (.invalidBase64 name)
  else match Base64Crate.standard.decode value.toList with
    | none => .error (.invalidBase64 name)
    | some decoded =>
        if maxDecodedLen < decoded.length then .error (.invalidBase64 name) else .ok decoded

def validateNonce (value : String) : Except ContractError Unit := do
  let nonce ← decodeBounded "nonce" value aesGcmNonceLen
  if nonce.length = aesGcmNonceLen then .ok () else .error .invalidNonce

def WrappedContentEncryptionKey.validate (key : WrappedContentEncryptionKey) :
    Except ContractError Unit := do
  validateLabel "recipient id" key.recipientId
  validateLabel "key reference" key.keyReference
  let wrapped ← decodeBounded "wrapped CEK" key.wrappedCekBase64 maxWrappedKeyBytes
  rejectIf (wrapped.length < 24) .wrappedKeyTooShort
  rejectIf (key.algorithm ≠ key.recipientKind.algorithm) .recipientAlgorithmMismatch

section Digest

variable [Crates]

def validateDigest (expected : String) (bytes : List UInt8) : Except ContractError Unit := do
  validateDigestSyntax expected
  rejectIf (hex32 (sha256 bytes) ≠ expected) .digestMismatch

def EncryptedMetadataEnvelope.validate (envelope : EncryptedMetadataEnvelope) :
    Except ContractError Unit := do
  validateNonce envelope.nonceBase64
  let ciphertext ← decodeBounded "encrypted metadata" envelope.ciphertextBase64 maxEnvelopeBytes
  rejectIf (ciphertext = []) .emptyCiphertext
  validateDigest envelope.ciphertextSha256 ciphertext

variable [StrCase]

/-- The loop over the key slots, with the slots and recipients seen before. -/
def validateKeys (slots : List Uuid) (recipients : List (KeyRecipientKind × String)) :
    List WrappedContentEncryptionKey → Except ContractError Unit
  | [] => .ok ()
  | key :: rest => do
      key.validate
      rejectIf (key.slotId ∈ slots) .duplicateKeySlot
      let recipient := (key.recipientKind, StrCase.toLowercase (Text.trim key.recipientId))
      rejectIf (recipient ∈ recipients) .duplicateRecipient
      validateKeys (key.slotId :: slots) (recipient :: recipients) rest

def OpaqueBlobManifest.validate (manifest : OpaqueBlobManifest) : Except ContractError Unit := do
  rejectIf (manifest.schemaVersion ≠ manifestSchemaVersion)
    (.unsupportedSchema manifest.schemaVersion)
  rejectIf (manifest.associatedData.version = 0) .zeroObjectVersion
  validateNonce manifest.nonceBase64
  validateDigestSyntax manifest.ciphertextSha256
  rejectIf (manifest.ciphertextLen = 0) .emptyCiphertext
  checkAll EncryptedMetadataEnvelope.validate manifest.encryptedMetadata.toList
  rejectIf (manifest.wrappedKeys = [] ∨ maxKeySlots < manifest.wrappedKeys.length)
    .invalidKeySlotCount
  validateKeys [] [] manifest.wrappedKeys

def ensureNonceIsUnique (candidate : OpaqueBlobManifest) (existing : List OpaqueBlobManifest) :
    Except ContractError Unit := do
  candidate.validate
  let candidateRefs := candidate.wrappedKeys.map WrappedContentEncryptionKey.keyReference
  rejectIf (existing.any fun manifest =>
    manifest.nonceBase64 = candidate.nonceBase64 ∧
      manifest.wrappedKeys.any fun slot => slot.keyReference ∈ candidateRefs) .nonceReuse

/-! ## What a validated manifest is -/

omit [Crates] [StrCase] in
theorem decode_of_validateNonce {value : String} (validated : validateNonce value = .ok ()) :
    ∃ nonce, Base64Crate.standard.decode value.toList = some nonce ∧
      nonce.length = aesGcmNonceLen := by
  obtain ⟨nonce, bounded, rest⟩ := bind_eq_ok_iff.mp validated
  have long : nonce.length = aesGcmNonceLen := by
    by_contra other
    rw [if_neg other] at rest
    cases rest
  rw [decodeBounded] at bounded
  obtain ⟨-, read⟩ := ite_error_eq_ok_iff.mp bounded
  split at read
  · cases read
  · next decoded known =>
      obtain ⟨-, same⟩ := ite_error_eq_ok_iff.mp read
      cases same
      exact ⟨nonce, known, long⟩

omit [StrCase] in
theorem EncryptedMetadataEnvelope.validateNonce_of_validate {envelope : EncryptedMetadataEnvelope}
    (validated : envelope.validate = .ok ()) : validateNonce envelope.nonceBase64 = .ok () :=
  (check_bind_eq_ok_iff.mp validated).1

/-- What validation says of the nonces and of the key slots. -/
structure OpaqueBlobManifest.Validated (manifest : OpaqueBlobManifest) : Prop where
  nonce : validateNonce manifest.nonceBase64 = .ok ()
  metadata : ∀ envelope ∈ manifest.encryptedMetadata, validateNonce envelope.nonceBase64 = .ok ()
  keyed : manifest.wrappedKeys ≠ []

theorem OpaqueBlobManifest.validated_of_validate {manifest : OpaqueBlobManifest}
    (validated : manifest.validate = .ok ()) : manifest.Validated := by
  obtain ⟨-, rest⟩ := check_bind_eq_ok_iff.mp validated
  obtain ⟨-, rest⟩ := check_bind_eq_ok_iff.mp rest
  obtain ⟨nonce, rest⟩ := check_bind_eq_ok_iff.mp rest
  obtain ⟨-, rest⟩ := check_bind_eq_ok_iff.mp rest
  obtain ⟨-, rest⟩ := check_bind_eq_ok_iff.mp rest
  obtain ⟨metadata, rest⟩ := check_bind_eq_ok_iff.mp rest
  obtain ⟨slots, -⟩ := check_bind_eq_ok_iff.mp rest
  refine ⟨nonce, fun envelope given => ?_, fun none_ => rejectIf_eq_ok_iff.mp slots (.inl none_)⟩
  exact EncryptedMetadataEnvelope.validateNonce_of_validate
    (checkAll_eq_ok_iff.mp metadata envelope (Option.mem_toList.mpr given))

/-- **What an accepted candidate has been compared with.** -/
theorem ensureNonceIsUnique_eq_ok_iff {candidate : OpaqueBlobManifest}
    {existing : List OpaqueBlobManifest} :
    ensureNonceIsUnique candidate existing = .ok () ↔ candidate.validate = .ok () ∧
      ∀ manifest ∈ existing, manifest.nonceBase64 = candidate.nonceBase64 →
        ∀ slot ∈ manifest.wrappedKeys, ∀ own ∈ candidate.wrappedKeys,
          slot.keyReference ≠ own.keyReference := by
  refine check_bind_eq_ok_iff.trans (and_congr_right fun _ => ?_)
  rw [rejectIf_eq_ok_iff]
  simp only [List.any_eq_true, decide_eq_true_eq, List.mem_map, not_exists, not_and]
  refine forall₂_congr fun manifest _ => forall_congr' fun _ => forall₂_congr fun slot _ => ?_
  exact ⟨fun apart own member same => apart own member same.symm,
    fun apart own member same => apart own member same.symm⟩

end Digest

end Validate

end Chancela.Zk
