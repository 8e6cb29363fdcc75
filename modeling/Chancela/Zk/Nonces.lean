import Chancela.Crates.Reference
import Chancela.Foundation.Run
import Chancela.Zk.Manifest

/-! # Nonces under one key

A manifest describes the content of an object and, in an envelope, encrypted metadata; each has
a nonce. `ensure_nonce_is_unique` compares contents, and key references letter by letter. The
nonces of a repository are distinct exactly as long as the other pairs do not meet
(`Chancela.Zk.noncesDistinct_iff_admissible`).
-/

namespace Chancela.Zk

open Run

/-- The two ciphertexts of a manifest. -/
inductive Part where
  | content
  | metadata
deriving DecidableEq, Repr

/-- The nonce of a ciphertext, if the manifest describes it. -/
def OpaqueBlobManifest.nonceText (manifest : OpaqueBlobManifest) : Part → Option String
  | .content => some manifest.nonceBase64
  | .metadata => manifest.encryptedMetadata.map EncryptedMetadataEnvelope.nonceBase64

/-- Slots of both manifests name one key, up to white space around the name. -/
def SharesKey (first second : OpaqueBlobManifest) : Prop :=
  ∃ slot ∈ first.wrappedKeys, ∃ other ∈ second.wrappedKeys,
    Text.trim slot.keyReference = Text.trim other.keyReference

instance (first second : OpaqueBlobManifest) : Decidable (SharesKey first second) :=
  inferInstanceAs (Decidable (∃ slot ∈ first.wrappedKeys, ∃ other ∈ second.wrappedKeys,
    Text.trim slot.keyReference = Text.trim other.keyReference))

/-- Slots of both manifests name one key with the same letters. -/
def SharesReference (first second : OpaqueBlobManifest) : Prop :=
  ∃ slot ∈ first.wrappedKeys, ∃ other ∈ second.wrappedKeys,
    slot.keyReference = other.keyReference

section Distinct

variable [Base64Crate]

def DecodeApart (first second : String) : Prop :=
  Base64Crate.standard.decode first.toList ≠ Base64Crate.standard.decode second.toList

/-- No nonce is used twice under one key. -/
structure NoncesDistinct (repository : List OpaqueBlobManifest) : Prop where
  within : ∀ manifest ∈ repository, ∀ nonce ∈ manifest.nonceText .metadata,
    DecodeApart manifest.nonceBase64 nonce
  across : repository.Pairwise fun first second => SharesKey first second →
    ∀ (part part' : Part), ∀ nonce ∈ first.nonceText part, ∀ nonce' ∈ second.nonceText part',
      DecodeApart nonce nonce'

/-- What `ensure_nonce_is_unique` does not compare is different: the nonce of an envelope from
that of its content and from all nonces under the same key, and the nonces of contents whose
key references agree in letters only up to white space. -/
structure UncheckedApart (existing : List OpaqueBlobManifest) (candidate : OpaqueBlobManifest) :
    Prop where
  own : ∀ nonce ∈ candidate.nonceText .metadata, candidate.nonceBase64 ≠ nonce
  envelopes : ∀ manifest ∈ existing, SharesKey manifest candidate →
    ∀ part part', (part, part') ≠ (Part.content, Part.content) →
      ∀ nonce ∈ manifest.nonceText part, ∀ nonce' ∈ candidate.nonceText part', nonce ≠ nonce'
  spelled : ∀ manifest ∈ existing, SharesKey manifest candidate →
    ¬SharesReference manifest candidate → manifest.nonceBase64 ≠ candidate.nonceBase64

theorem OpaqueBlobManifest.Validated.decodes {manifest : OpaqueBlobManifest}
    (validated : manifest.Validated) {part : Part} {nonce : String}
    (given : nonce ∈ manifest.nonceText part) :
    ∃ bytes, Base64Crate.standard.decode nonce.toList = some bytes := by
  cases part with
  | content =>
      obtain rfl := Option.mem_some.mp given
      obtain ⟨bytes, read, -⟩ := decode_of_validateNonce validated.nonce
      exact ⟨bytes, read⟩
  | metadata =>
      obtain ⟨envelope, described, rfl⟩ := Option.mem_map.mp given
      obtain ⟨bytes, read, -⟩ := decode_of_validateNonce (validated.metadata envelope described)
      exact ⟨bytes, read⟩

theorem decodeApart_iff {manifest : OpaqueBlobManifest} (validated : manifest.Validated)
    {part : Part} {nonce other : String} (given : nonce ∈ manifest.nonceText part) :
    DecodeApart other nonce ↔ other ≠ nonce := by
  obtain ⟨bytes, read⟩ := validated.decodes given
  refine not_congr ⟨fun same => ?_, fun same => by rw [same]⟩
  rw [read] at same
  exact String.toList_injective (Base64Crate.standard.decode_injective same read)

variable [Crates] [StrCase]

/-- A manifest is put into the repository when it is accepted. -/
def admit_ (repository : List OpaqueBlobManifest) (candidate : OpaqueBlobManifest) :
    List OpaqueBlobManifest :=
  match ensureNonceIsUnique candidate repository with
  | .ok () => repository ++ [candidate]
  | .error _ => repository

/-- The candidate is accepted only where the pairs that are not compared are apart. -/
def AcceptsApart (repository : List OpaqueBlobManifest) (candidate : OpaqueBlobManifest) : Prop :=
  ensureNonceIsUnique candidate repository = .ok () → UncheckedApart repository candidate

/-- **One manifest.** Where it is accepted, its nonces are new exactly when the pairs that are
not compared are apart. -/
theorem noncesDistinct_append_iff {repository : List OpaqueBlobManifest}
    {candidate : OpaqueBlobManifest} (distinct : NoncesDistinct repository)
    (accepted : ensureNonceIsUnique candidate repository = .ok ()) :
    NoncesDistinct (repository ++ [candidate]) ↔ UncheckedApart repository candidate := by
  obtain ⟨validates, compared⟩ := ensureNonceIsUnique_eq_ok_iff.mp accepted
  have validated := OpaqueBlobManifest.validated_of_validate validates
  constructor
  · intro fresh
    have new := (List.pairwise_append.mp fresh.across).2.2
    refine ⟨fun nonce given => ?_,
      fun manifest member shared part part' _ nonce given nonce' given' =>
      ?_, fun manifest member shared _ => ?_⟩
    · exact (decodeApart_iff validated given).mp
        (fresh.within candidate (List.mem_append_right _ List.mem_cons_self) nonce given)
    · exact (decodeApart_iff validated given').mp
        (new manifest member candidate List.mem_cons_self shared part part' nonce given nonce'
          given')
    · have given : candidate.nonceBase64 ∈ candidate.nonceText .content := rfl
      exact (decodeApart_iff validated given).mp
        (new manifest member candidate List.mem_cons_self shared .content .content _ rfl _ rfl)
  · intro apart
    refine ⟨?_, List.pairwise_append.mpr ⟨distinct.across, List.pairwise_singleton _ _, ?_⟩⟩
    · intro manifest member nonce given
      rcases List.mem_append.mp member with old | new
      · exact distinct.within manifest old nonce given
      · obtain rfl := List.mem_singleton.mp new
        exact (decodeApart_iff validated given).mpr (apart.own nonce given)
    · intro manifest member other new shared part part' nonce given nonce' given'
      obtain rfl := List.mem_singleton.mp new
      refine (decodeApart_iff validated given').mpr ?_
      by_cases contents : (part, part') = (Part.content, Part.content)
      · obtain ⟨rfl, rfl⟩ := Prod.mk.inj contents
        obtain rfl := Option.mem_some.mp given
        obtain rfl := Option.mem_some.mp given'
        by_cases spelled : SharesReference manifest other
        · obtain ⟨slot, slotMember, own, ownMember, same⟩ := spelled
          exact fun equal => compared manifest member equal slot slotMember own ownMember same
        · exact apart.spelled manifest member shared spelled
      · exact apart.envelopes manifest member shared part part' contents nonce given nonce' given'

theorem noncesDistinct_admit_iff {repository : List OpaqueBlobManifest}
    (distinct : NoncesDistinct repository) (candidate : OpaqueBlobManifest) :
    NoncesDistinct (admit_ repository candidate) ↔ AcceptsApart repository candidate := by
  rw [admit_, AcceptsApart]
  cases accepted : ensureNonceIsUnique candidate repository with
  | error fault => simp [distinct]
  | ok done => simpa using noncesDistinct_append_iff distinct accepted

omit [Crates] [StrCase] in
theorem noncesDistinct_nil : NoncesDistinct [] :=
  ⟨fun _ member => (nomatch member), List.Pairwise.nil⟩

/-- **Nonces stay distinct exactly in the runs that accept no unchecked coincidence.** -/
theorem noncesDistinct_iff_admissible (candidates : List OpaqueBlobManifest) :
    (∀ repository ∈ states admit_ [] candidates, NoncesDistinct repository) ↔
      Admissible admit_ AcceptsApart [] candidates := by
  have settled : ∀ repository candidate, NoncesDistinct repository →
      (NoncesDistinct (admit_ repository candidate) ↔ AcceptsApart repository candidate) :=
    fun _ candidate distinct => noncesDistinct_admit_iff distinct candidate
  exact forall_mem_states_iff_admissible settled noncesDistinct_nil candidates

end Distinct

section Witness

open scoped Reference

/-- Lowercase of ASCII text. -/
scoped instance strCase : StrCase where
  toLowercase text := String.ofList (text.toList.map Char.toLower)

/-- A manifest the envelope of which was encrypted under the nonce of the content. -/
def reusedNonce : OpaqueBlobManifest where
  schemaVersion := 1
  associatedData := ⟨⟨1⟩, ⟨2⟩, 1⟩
  nonceBase64 := "AAAAAAAAAAAAAAAA"
  ciphertextSha256 := String.ofList (List.replicate 64 '0')
  ciphertextLen := 1
  encryptedMetadata := some {
    nonceBase64 := "AAAAAAAAAAAAAAAA"
    ciphertextBase64 := "AA=="
    ciphertextSha256 := hex32 (sha256 [0]) }
  wrappedKeys := [{
    slotId := ⟨3⟩
    recipientKind := .bringYourOwnKey
    recipientId := "o"
    algorithm := .aes256KwByok
    keyReference := "k"
    wrappedCekBase64 := "AAAAAAAAAAAAAAAAAAAAAAAAAAAAAAAA" }]

/-- It is accepted, and one nonce is used twice. -/
theorem not_noncesDistinct_reusedNonce :
    ¬∀ candidates : List OpaqueBlobManifest,
      ∀ repository ∈ states admit_ [] candidates, NoncesDistinct repository := by
  intro always
  have accepted : ensureNonceIsUnique reusedNonce [] = .ok () := by decide +kernel
  have distinct := always [reusedNonce] (admit_ [] reusedNonce)
    (List.mem_cons_of_mem _ List.mem_cons_self)
  rw [noncesDistinct_admit_iff noncesDistinct_nil] at distinct
  exact (distinct accepted).own _ rfl rfl

end Witness

end Chancela.Zk
