import Chancela.Crates.Reference
import Chancela.Pades.ByteRange
import Chancela.Pades.Ocsp

/-! # Long-term validation offline

From the signer's certificate the verifier walks to embedded issuers whose key verifies the
signature, to a self-issued certificate, and asks of each link that some embedded OCSP response or
CRL cover it. The walk is a path of certificates as it should be and no longer than 33 of them
(`Chancela.Pades.walked_path`). But a response covers a link whatever status it gives, and one
that covers it outweighs all that say otherwise: the verdict is right exactly where no evidence
says otherwise (`Chancela.Pades.ltv_sound_iff`).
-/

namespace Chancela.Pades

/-- Certificates as parsed, and what other code does with them. -/
class CertificateCrates (Certificate : Type) where
  /-- `verify_child_signature`. -/
  verifyChildSignature : Certificate → Certificate → Bool
  /-- The subject's distinguished name as text. -/
  subjectText : Certificate → String

export CertificateCrates (verifyChildSignature subjectText)

structure ChainCert (Certificate : Type) where
  cert : Certificate
  subjectDer : List UInt8
  issuerDer : List UInt8
  serial : List UInt8
  publicKey : List UInt8
  ski : Option (List UInt8)
  aki : Option (List UInt8)
  isCa : Bool

/-- `CertificateList`, its issuer's name as DER and the serial numbers it lists. -/
structure CertificateList where
  issuerDer : List UInt8
  revokedCertificates : List (List UInt8)

inductive LtvUncoveredReason where
  | issuerNotEmbedded
  | issuerSignatureInvalid
  | noEmbeddedRevocation
deriving DecidableEq

structure LtvUncoveredLink where
  index : Nat
  subject : String
  serialHex : List UInt8
  reason : LtvUncoveredReason
deriving DecidableEq

inductive DocTimeStampSemanticStatus where
  | valid
  | failed
  | unsupported
deriving DecidableEq

/-- `DocTimeStampValidation`, as far as the renewal chain reads it. -/
structure DocTimeStampValidation where
  byteRange : Option (Int × Int × Int × Int)
  status : DocTimeStampSemanticStatus

/-- `DocTimeStampReport`, as far as it is read here. -/
structure DocTimeStampReport where
  count : Nat
  validations : List DocTimeStampValidation

def PdfSignatureCoverage.coversRenderedDocument : PdfSignatureCoverage → Bool
  | .wholeDocument | .ltvAugmentedSignedRevision => true
  | _ => false

/-- What a signed file holds for the verifier: the coverage of its signature, the signer's
certificate, the archive timestamps, and the embedded certificates, OCSP responses and CRLs, as
far as they parse. -/
structure LtvMaterial (Certificate : Type) where
  coverage : PdfSignatureCoverage
  signer : Option (ChainCert Certificate)
  docTimestamps : DocTimeStampReport
  embedded : List (ChainCert Certificate)
  ocspDers : List (List UInt8)
  crls : List CertificateList

structure LtvVerificationReport where
  signerChainLen : Nat
  chainTerminatesInEmbeddedRoot : Bool
  allLinksRevocationCovered : Bool
  uncoveredLinks : List LtvUncoveredLink
  docTimestampCount : Nat
  renewalChainContiguous : Bool
  verifiedOffline : Bool

/-! ### The walk -/

section Walk

variable {Certificate : Type} [CertificateCrates Certificate] [Crates]

def ChainCert.isSelfIssued (cert : ChainCert Certificate) : Bool := cert.subjectDer = cert.issuerDer

def ChainCert.uncovered (cert : ChainCert Certificate) (index : Nat) (reason : LtvUncoveredReason) :
    LtvUncoveredLink :=
  ⟨index, subjectText cert.cert, Pdf.toHex cert.serial, reason⟩

def akiSkiMatch (child candidate : ChainCert Certificate) : Bool :=
  match child.aki, candidate.ski with
  | some aki, some ski => aki = ski
  | _, _ => true

def sha256OidContent : List UInt8 := [0x60, 0x86, 0x48, 0x01, 0x65, 0x03, 0x04, 0x02, 0x01]

def ocspCoversLink (ocspDer : List UInt8) (issuer : ChainCert Certificate)
    (childSerial : List UInt8) : Bool :=
  (ocspCertids ocspDer).any fun id =>
    id.algOid = sha256OidContent && id.nameHash = (sha256 issuer.subjectDer).toList &&
      id.keyHash = (sha256 issuer.publicKey).toList && normSerial id.serial = normSerial childSerial

def crlCoversLink (crl : CertificateList) (issuer : ChainCert Certificate)
    (childSerial : List UInt8) : Bool :=
  crl.issuerDer = issuer.subjectDer &&
    !crl.revokedCertificates.any fun serial => normSerial serial = normSerial childSerial

def linkRevocationCovered (child issuer : ChainCert Certificate) (ocspDers : List (List UInt8))
    (crls : List CertificateList) : Bool :=
  ocspDers.any (ocspCoversLink · issuer child.serial) ||
    crls.any (crlCoversLink · issuer child.serial)

def nameCandidates (embedded : List (ChainCert Certificate)) (current : ChainCert Certificate) :
    List (ChainCert Certificate) :=
  embedded.filter fun cand =>
    cand.subjectDer = current.issuerDer && cand.isCa && akiSkiMatch current cand

/-- The candidate whose key verifies the certificate's signature. -/
def verifiedIssuer (embedded : List (ChainCert Certificate)) (current : ChainCert Certificate) :
    Option (ChainCert Certificate) :=
  (nameCandidates embedded current).find? fun issuer =>
    verifyChildSignature current.cert issuer.cert

/-- What the loop leaves: the length of the chain, whether it ended in a root, and the links
found uncovered. -/
structure ChainWalk where
  chainLen : Nat
  terminates : Bool
  uncovered : List LtvUncoveredLink

/-- The loop of `verify_ltv_offline`. -/
def walkChain (material : LtvMaterial Certificate) (chainLen : Nat)
    (visited : List (List UInt8 × List UInt8)) (uncovered : List LtvUncoveredLink)
    (current : ChainCert Certificate) : ChainWalk :=
  let nodeKey := (current.subjectDer, current.serial)
  if current.isSelfIssued then ⟨chainLen + 1, true, uncovered⟩
  else if nodeKey ∈ visited ∨ 32 < chainLen + 1 then
    ⟨chainLen + 1, false, uncovered ++ [current.uncovered chainLen .issuerNotEmbedded]⟩
  else
    match verifiedIssuer material.embedded current with
    | some issuer =>
        let uncovered :=
          if linkRevocationCovered current issuer material.ocspDers material.crls then uncovered
          else uncovered ++ [current.uncovered chainLen .noEmbeddedRevocation]
        walkChain material (chainLen + 1) (visited ++ [nodeKey]) uncovered issuer
    | none =>
        let reason := if nameCandidates material.embedded current ≠ [] then
          LtvUncoveredReason.issuerSignatureInvalid else .issuerNotEmbedded
        ⟨chainLen + 1, false, uncovered ++ [current.uncovered chainLen reason]⟩
termination_by 33 - chainLen
decreasing_by omega

/-- The loop of `renewal_chain_contiguous`. -/
def renewsFrom : Int → List DocTimeStampValidation → Bool
  | _, [] => true
  | prevEnd, validation :: rest =>
      validation.status = .valid &&
        match validation.byteRange with
        | some (_, _, s2, l2) =>
            if -2 ^ 63 ≤ s2 + l2 ∧ s2 + l2 < 2 ^ 63 ∧ prevEnd < s2 + l2 then
              renewsFrom (s2 + l2) rest
            else false
        | none => false

def renewalChainContiguous (dts : DocTimeStampReport) : Bool :=
  if dts.count = 0 ∨ dts.validations.length ≠ dts.count then false
  else renewsFrom 0 dts.validations

/-- `verify_ltv_offline`, from what the file holds. -/
def verifyLtvOffline (material : LtvMaterial Certificate) : LtvVerificationReport :=
  let walk := material.signer.elim ⟨0, false, []⟩ (walkChain material 0 [] [])
  { signerChainLen := walk.chainLen
    chainTerminatesInEmbeddedRoot := walk.terminates
    allLinksRevocationCovered := !walk.uncovered.any (·.reason = .noEmbeddedRevocation)
    uncoveredLinks := walk.uncovered
    docTimestampCount := material.docTimestamps.count
    renewalChainContiguous := renewalChainContiguous material.docTimestamps
    verifiedOffline := material.coverage.coversRenderedDocument && 1 ≤ walk.chainLen &&
      walk.terminates && walk.uncovered = [] }

end Walk

/-! ### Its path -/

section Path

variable {Certificate : Type}

def links (path : List (ChainCert Certificate)) :
    List (ChainCert Certificate × ChainCert Certificate) := path.zip path.tail

def Rooted (path : List (ChainCert Certificate)) : Prop :=
  ∃ root, path.getLast? = some root ∧ root.isSelfIssued = true

theorem links_cons {current issuer : ChainCert Certificate} {path : List (ChainCert Certificate)}
    (head : path.head? = some issuer) :
    links (current :: path) = (current, issuer) :: links path := by
  obtain ⟨rest, rfl⟩ := List.head?_eq_some_iff.mp head
  rfl

theorem rooted_singleton {current : ChainCert Certificate} :
    Rooted [current] ↔ current.isSelfIssued = true := by
  constructor
  · intro rooted
    obtain ⟨root, last, selfIssued⟩ := rooted
    obtain rfl := Option.some.inj last
    exact selfIssued
  · exact fun selfIssued => ⟨current, rfl, selfIssued⟩

theorem rooted_cons {current : ChainCert Certificate} {path : List (ChainCert Certificate)}
    (nonempty : path ≠ []) : Rooted (current :: path) ↔ Rooted path := by
  unfold Rooted
  rw [List.getLast?_cons_of_ne_nil nonempty]

variable [CertificateCrates Certificate]

def walked (embedded : List (ChainCert Certificate)) (visited : List (List UInt8 × List UInt8))
    (current : ChainCert Certificate) : List (ChainCert Certificate) :=
  if current.isSelfIssued ∨ (current.subjectDer, current.serial) ∈ visited ∨
      32 ≤ visited.length then [current]
  else
    match verifiedIssuer embedded current with
    | some issuer =>
        current :: walked embedded (visited ++ [(current.subjectDer, current.serial)]) issuer
    | none => [current]
termination_by 33 - visited.length
decreasing_by
  rw [List.length_append, List.length_singleton]
  omega

/-- An embedded certificate that a certificate can be issued by. -/
structure Issues (embedded : List (ChainCert Certificate))
    (child issuer : ChainCert Certificate) : Prop where
  embedded : issuer ∈ embedded
  authority : issuer.isCa = true
  named : issuer.subjectDer = child.issuerDer
  verified : verifyChildSignature child.cert issuer.cert = true

variable {embedded : List (ChainCert Certificate)} {visited : List (List UInt8 × List UInt8)}
  {current child issuer : ChainCert Certificate}

theorem issues_of_verifiedIssuer (chosen : verifiedIssuer embedded child = some issuer) :
    Issues embedded child issuer := by
  unfold verifiedIssuer at chosen
  have verified := List.find?_some chosen
  obtain ⟨member, matching⟩ := List.mem_filter.mp (List.mem_of_find?_eq_some chosen)
  simp only [Bool.and_eq_true, decide_eq_true_eq] at matching
  exact ⟨member, matching.1.2, matching.1.1, verified⟩

theorem walked_ne_nil : walked embedded visited current ≠ [] := by
  rw [walked]
  split
  · exact List.cons_ne_nil _ _
  · split <;> exact List.cons_ne_nil _ _

theorem head?_walked : (walked embedded visited current).head? = some current := by
  rw [walked]
  split
  · rfl
  · split <;> rfl

/-- **The walk is a path** of embedded issuers, no longer than 33 certificates. -/
theorem walked_path (few : visited.length ≤ 32) :
    visited.length + (walked embedded visited current).length ≤ 33 ∧
      ∀ link ∈ links (walked embedded visited current), Issues embedded link.1 link.2 := by
  induction room : 32 - visited.length generalizing visited current with
  | zero =>
      have full : 32 ≤ visited.length := Nat.sub_eq_zero_iff_le.mp room
      rw [walked, if_pos (.inr (.inr full))]
      exact ⟨Nat.succ_le_succ few, nofun⟩
  | succ room ih =>
      rw [walked]
      split
      · exact ⟨Nat.succ_le_succ few, nofun⟩
      · cases chosen : verifiedIssuer embedded current with
        | none => exact ⟨Nat.succ_le_succ few, nofun⟩
        | some issuer =>
            dsimp only
            have more : (visited ++ [(current.subjectDer, current.serial)]).length =
                visited.length + 1 := List.length_append
            obtain ⟨short, others⟩ :=
              @ih (visited ++ [(current.subjectDer, current.serial)]) issuer (by omega) (by omega)
            refine ⟨by rw [List.length_cons]; omega, ?_⟩
            rw [links_cons head?_walked]
            exact List.forall_mem_cons.mpr ⟨issues_of_verifiedIssuer chosen, others⟩

end Path

section Verdict

variable {Certificate : Type} [CertificateCrates Certificate] [Crates]
  {material : LtvMaterial Certificate} {visited : List (List UInt8 × List UInt8)}
  {current : ChainCert Certificate}

/-- **What the loop leaves** is said by the path alone. -/
theorem walkChain_spec (uncovered : List LtvUncoveredLink) (few : visited.length ≤ 32) :
    (walkChain material visited.length visited uncovered current).chainLen =
        visited.length + (walked material.embedded visited current).length ∧
      ((walkChain material visited.length visited uncovered current).terminates = true ∧
          (walkChain material visited.length visited uncovered current).uncovered = [] ↔
        uncovered = [] ∧ Rooted (walked material.embedded visited current) ∧
          ∀ link ∈ links (walked material.embedded visited current),
            linkRevocationCovered link.1 link.2 material.ocspDers material.crls = true) := by
  induction room : 33 - visited.length generalizing visited current uncovered with
  | zero => omega
  | succ room ih =>
      rw [walkChain, walked]
      dsimp only
      by_cases selfIssued : current.isSelfIssued = true
      · rw [if_pos selfIssued, if_pos (.inl selfIssued)]
        refine ⟨rfl, ?_⟩
        rw [rooted_singleton]
        exact ⟨fun done => ⟨done.2, selfIssued, nofun⟩, fun covered => ⟨rfl, covered.1⟩⟩
      rw [if_neg selfIssued]
      by_cases stopped : (current.subjectDer, current.serial) ∈ visited ∨ 32 ≤ visited.length
      · rw [if_pos (stopped.imp_right Nat.lt_succ_of_le), if_pos (.inr stopped)]
        refine ⟨rfl, ?_⟩
        rw [rooted_singleton]
        exact iff_of_false nofun fun covered => selfIssued covered.2.1
      rw [if_neg (mt (Or.imp_right Nat.le_of_lt_succ) stopped),
        if_neg (not_or.mpr ⟨selfIssued, stopped⟩)]
      cases chosen : verifiedIssuer material.embedded current with
      | none =>
          refine ⟨rfl, ?_⟩
          rw [rooted_singleton]
          exact iff_of_false nofun fun covered => selfIssued covered.2.1
      | some issuer =>
          have more : (visited ++ [(current.subjectDer, current.serial)]).length =
              visited.length + 1 := List.length_append
          dsimp only
          rw [← more, links_cons head?_walked, rooted_cons walked_ne_nil]
          obtain ⟨length, spec⟩ := @ih (visited ++ [(current.subjectDer, current.serial)]) issuer
            (if linkRevocationCovered current issuer material.ocspDers material.crls then uncovered
              else uncovered ++ [current.uncovered visited.length .noEmbeddedRevocation])
            (by omega) (by omega)
          refine ⟨by rw [length, List.length_cons]; omega, spec.trans ?_⟩
          rw [List.forall_mem_cons]
          by_cases covered :
              linkRevocationCovered current issuer material.ocspDers material.crls = true
          · rw [if_pos covered]
            exact ⟨fun rest => ⟨rest.1, rest.2.1, covered, rest.2.2⟩,
              fun rest => ⟨rest.1, rest.2.1, rest.2.2.2⟩⟩
          · rw [if_neg covered]
            refine iff_of_false ?_ fun rest => covered rest.2.2.1
            exact fun rest => List.append_ne_nil_of_right_ne_nil _ (List.cons_ne_nil _ _) rest.1

/-! ### What the evidence says -/

/-- What the digests of an identifier are of, by the object identifier of their algorithm; `others`
knows the algorithms other than SHA-256. -/
def hashUnder (others : List UInt8 → List UInt8 → Option (List UInt8)) (algOid bytes : List UInt8) :
    Option (List UInt8) :=
  if algOid = sha256OidContent then some (sha256 bytes).toList else others algOid bytes

/-- An identifier names a certificate by its issuer and serial number. -/
structure OcspCertId.Names (others : List UInt8 → List UInt8 → Option (List UInt8))
    (id : OcspCertId) (child issuer : ChainCert Certificate) : Prop where
  name : hashUnder others id.algOid issuer.subjectDer = some id.nameHash
  key : hashUnder others id.algOid issuer.publicKey = some id.keyHash
  serial : normSerial id.serial = normSerial child.serial

/-- An OCSP response with a single response for the certificate whose status is not good. -/
def OcspContradicts (others : List UInt8 → List UInt8 → Option (List UInt8)) (ocspDer : List UInt8)
    (child issuer : ChainCert Certificate) : Prop :=
  ∃ single ∈ (ocspResponses ocspDer).getD [], ∃ id status, certidOf single = some id ∧
    id.Names others child issuer ∧ statusOf single = some status ∧ status ≠ 0x80

def CrlContradicts (crl : CertificateList) (child issuer : ChainCert Certificate) : Prop :=
  crl.issuerDer = issuer.subjectDer ∧
    ∃ serial ∈ crl.revokedCertificates, normSerial serial = normSerial child.serial

def Contradicted (others : List UInt8 → List UInt8 → Option (List UInt8))
    (material : LtvMaterial Certificate) (child issuer : ChainCert Certificate) : Prop :=
  (∃ ocspDer ∈ material.ocspDers, OcspContradicts others ocspDer child issuer) ∨
    ∃ crl ∈ material.crls, CrlContradicts crl child issuer

/-! ### The verdict -/

variable (others : List UInt8 → List UInt8 → Option (List UInt8))
  (material : LtvMaterial Certificate)

/-- A walk from the signer's certificate to a self-issued one, each link of which is issued by an
embedded certificate and spoken against by nothing. -/
structure SoundWalk (signer : ChainCert Certificate) (path : List (ChainCert Certificate)) :
    Prop where
  starts : path.head? = some signer
  rooted : Rooted path
  issued : ∀ link ∈ links path, Issues material.embedded link.1 link.2
  uncontradicted : ∀ link ∈ links path, ¬Contradicted others material link.1 link.2

/-- The walk ends after at most 33 certificates, and a positive verdict is right about it. -/
structure LtvSound : Prop where
  bounded : (verifyLtvOffline material).signerChainLen ≤ 33
  right : (verifyLtvOffline material).verifiedOffline = true →
    ∃ signer, material.signer = some signer ∧
      (walked material.embedded [] signer).length = (verifyLtvOffline material).signerChainLen ∧
      SoundWalk others material signer (walked material.embedded [] signer)

/-- Where everything else is in order, nothing speaks against a link of the walk. -/
def Uncontradicted : Prop :=
  ∀ signer, material.signer = some signer → material.coverage.coversRenderedDocument = true →
    Rooted (walked material.embedded [] signer) →
    (∀ link ∈ links (walked material.embedded [] signer),
      linkRevocationCovered link.1 link.2 material.ocspDers material.crls = true) →
    ∀ link ∈ links (walked material.embedded [] signer), ¬Contradicted others material link.1 link.2

variable {material}

/-- **The verdict** is positive where the signature covers the document, and the walk ends in a
root with every link covered. -/
theorem verifiedOffline_iff {signer : ChainCert Certificate}
    (parsed : material.signer = some signer) :
    (verifyLtvOffline material).verifiedOffline = true ↔
      material.coverage.coversRenderedDocument = true ∧
        Rooted (walked material.embedded [] signer) ∧
        ∀ link ∈ links (walked material.embedded [] signer),
          linkRevocationCovered link.1 link.2 material.ocspDers material.crls = true := by
  have few : ([] : List (List UInt8 × List UInt8)).length ≤ 32 := Nat.zero_le _
  obtain ⟨length, spec⟩ := @walkChain_spec _ _ _ material [] signer [] few
  have positive : 1 ≤ (walkChain material 0 [] [] signer).chainLen := by
    rw [show (walkChain material 0 [] [] signer).chainLen = _ from length]
    exact Nat.le_add_left_of_le (List.length_pos_iff.mpr walked_ne_nil)
  have spec := spec.trans (and_iff_right rfl)
  unfold verifyLtvOffline
  rw [parsed]
  dsimp only [Option.elim_some]
  rw [Bool.and_eq_true, Bool.and_eq_true, Bool.and_eq_true, decide_eq_true_eq, decide_eq_true_eq,
    and_iff_left positive, and_assoc]
  exact and_congr_right fun _ => spec

theorem verifiedOffline_of_unparsed (unparsed : material.signer = none) :
    (verifyLtvOffline material).verifiedOffline = false ∧
      (verifyLtvOffline material).signerChainLen = 0 := by
  unfold verifyLtvOffline
  rw [unparsed]
  refine ⟨?_, rfl⟩
  dsimp only [Option.elim_none]
  rw [Bool.and_assoc, Bool.and_assoc]
  exact Bool.and_false _

theorem signerChainLen_eq {signer : ChainCert Certificate}
    (parsed : material.signer = some signer) :
    (verifyLtvOffline material).signerChainLen = (walked material.embedded [] signer).length := by
  have few : ([] : List (List UInt8 × List UInt8)).length ≤ 32 := Nat.zero_le _
  obtain ⟨length, -⟩ := @walkChain_spec _ _ _ material [] signer [] few
  unfold verifyLtvOffline
  rw [parsed]
  exact length.trans (Nat.zero_add _)

/-- **The verdict is right** exactly where nothing speaks against a link of a walk that is
otherwise in order. -/
theorem ltv_sound_iff : LtvSound others material ↔ Uncontradicted others material := by
  constructor
  · intro sound signer parsed covers rooted covered
    have verified := (verifiedOffline_iff parsed).mpr ⟨covers, rooted, covered⟩
    obtain ⟨signer', parsed', -, walk⟩ := sound.right verified
    obtain rfl := Option.some.inj (parsed.symm.trans parsed')
    exact walk.uncontradicted
  · intro uncontradicted
    cases parsed : material.signer with
    | none =>
        obtain ⟨unverified, empty⟩ := verifiedOffline_of_unparsed parsed
        refine ⟨by rw [empty]; exact Nat.zero_le _, fun verified => ?_⟩
        rw [unverified] at verified
        cases verified
    | some signer =>
        have few : ([] : List (List UInt8 × List UInt8)).length ≤ 32 := Nat.zero_le _
        obtain ⟨short, issued⟩ := @walked_path _ _ material.embedded [] signer few
        have length := signerChainLen_eq parsed
        refine ⟨by rw [length]; exact (Nat.le_add_left _ _).trans short, fun verified => ?_⟩
        obtain ⟨covers, rooted, covered⟩ := (verifiedOffline_iff parsed).mp verified
        exact ⟨signer, parsed, length.symm, head?_walked, rooted, issued,
          uncontradicted signer parsed covers rooted covered⟩

end Verdict

/-! ### A revoked signer -/

namespace RevokedSigner

/-- A signer's certificate and its issuer's. -/
inductive Minted where
  | leaf
  | root

instance : CertificateCrates Minted where
  verifyChildSignature _ issuer := match issuer with
    | .root => true
    | .leaf => false
  subjectText
    | .leaf => "CN=S"
    | .root => "CN=R"

/-- The name `CN` of one letter as DER. -/
def name (letter : UInt8) : List UInt8 :=
  [0x30, 0x0c, 0x31, 0x0a, 0x30, 0x08, 0x06, 0x03, 0x55, 0x04, 0x03, 0x0c, 0x01, letter]

def root : ChainCert Minted := ⟨.root, name 82, name 82, [1], [4, 1], none, none, true⟩

def leaf : ChainCert Minted := ⟨.leaf, name 83, name 82, [42], [4, 2], none, none, false⟩

variable [Crates]

def certid : List UInt8 :=
  tlv 0x30 (tlv 0x06 sha256OidContent ++ tlv 0x05 []) ++
    (tlv 0x04 (sha256 root.subjectDer).toList ++
      (tlv 0x04 (sha256 root.publicKey).toList ++ tlv 0x02 leaf.serial))

/-- The single response for the leaf: revoked, at the turn of a year. -/
def single : List UInt8 :=
  tlv 0x30 certid ++ tlv 0xA1 (tlv 0x18 (Text.utf8 "20250101000000Z"))

def ocsp : List UInt8 :=
  tlv 0x30 (tlv 0x0A [0] ++ tlv 0xA0 (tlv 0x30
    (tlv 0x06 [0x2b, 0x06, 0x01, 0x05, 0x05, 0x07, 0x30, 0x01, 0x01] ++
      tlv 0x04 (tlv 0x30 (tlv 0x30 (tlv 0x30 (tlv 0x30 single)))))))

def material : LtvMaterial Minted where
  coverage := .wholeDocument
  signer := some leaf
  docTimestamps := ⟨0, []⟩
  embedded := [leaf, root]
  ocspDers := [ocsp]
  crls := []

def id : OcspCertId :=
  ⟨sha256OidContent, (sha256 root.subjectDer).toList, (sha256 root.publicKey).toList, leaf.serial⟩

theorem length_certid : certid.length ≤ 92 := by
  have alg := length_tlv 0x30 (tlv 0x06 sha256OidContent ++ tlv 0x05 [])
  have first := length_tlv 0x04 (sha256 root.subjectDer).toList
  have second := length_tlv 0x04 (sha256 root.publicKey).toList
  rw [length_digest] at first second
  unfold certid
  simp only [List.length_append]
  change _ ≤ 13 + 3 at alg
  have third : (tlv 0x02 leaf.serial).length = 3 := rfl
  omega

theorem length_single : single.length ≤ 116 := by
  have body := length_tlv 0x30 certid
  have small := length_certid
  have status : (tlv 0xA1 (tlv 0x18 (Text.utf8 "20250101000000Z"))).length = 19 := rfl
  unfold single
  rw [List.length_append]
  omega

theorem parseCertid_certid : parseCertid certid = some id := by
  have first : (sha256 root.subjectDer).toList.length < 256 := by
    rw [length_digest]
    decide
  have second : (sha256 root.publicKey).toList.length < 256 := by
    rw [length_digest]
    decide
  have children : derChildren certid = [(0x30, tlv 0x06 sha256OidContent ++ tlv 0x05 []),
      (0x04, (sha256 root.subjectDer).toList), (0x04, (sha256 root.publicKey).toList),
      (0x02, leaf.serial)] := by
    unfold certid
    rw [derChildren_tlv (by decide), derChildren_tlv first, derChildren_tlv second,
      derChildren_tlv_alone (by decide)]
  have alg : derChildren (tlv 0x06 sha256OidContent ++ tlv 0x05 []) =
      [(0x06, sha256OidContent), (0x05, [])] := by
    rw [derChildren_tlv (by decide), derChildren_tlv_alone (by decide)]
  unfold parseCertid derChild
  rw [children]
  change (do
    let algOid ← ((derChildren (tlv 0x06 sha256OidContent ++ tlv 0x05 [])).find? _).map Prod.snd
    _) = _
  rw [alg]
  rfl

theorem ocspResponses_ocsp : ocspResponses ocsp = some [(0x30, single)] := by
  have small := length_single
  have responses := length_tlv 0x30 single
  have tbs := length_tlv 0x30 (tlv 0x30 single)
  have data := length_tlv 0x30 (tlv 0x30 (tlv 0x30 single))
  have basic := length_tlv 0x30 (tlv 0x30 (tlv 0x30 (tlv 0x30 single)))
  have octet := length_tlv 0x04 (tlv 0x30 (tlv 0x30 (tlv 0x30 (tlv 0x30 single))))
  have oid : (tlv 0x06 [0x2b, 0x06, 0x01, 0x05, 0x05, 0x07, 0x30, 0x01, 0x01]).length = 11 := rfl
  generalize bytes_eq : tlv 0x06 [0x2b, 0x06, 0x01, 0x05, 0x05, 0x07, 0x30, 0x01, 0x01] ++
    tlv 0x04 (tlv 0x30 (tlv 0x30 (tlv 0x30 (tlv 0x30 single)))) = bytes
  have length : bytes.length ≤ 142 := by
    rw [← bytes_eq, List.length_append]
    omega
  have sequence := length_tlv 0x30 bytes
  have explicit := length_tlv 0xA0 (tlv 0x30 bytes)
  have status : (tlv 0x0A [0]).length = 3 := rfl
  have opened : derTlv ocsp = some (0x30, tlv 0x0A [0] ++ tlv 0xA0 (tlv 0x30 bytes), []) := by
    unfold ocsp
    rw [bytes_eq, derTlv_tlv_alone]
    rw [List.length_append]
    omega
  have wrapped : derChild 0xA0 (tlv 0x0A [0] ++ tlv 0xA0 (tlv 0x30 bytes)) =
      some (tlv 0x30 bytes) := by
    refine (derChild_tlv_of_ne ?_ ?_).trans (derChild_tlv_alone ?_)
    · decide
    · exact nofun
    · omega
  have held : derChild 0x04 bytes = some (tlv 0x30 (tlv 0x30 (tlv 0x30 (tlv 0x30 single)))) := by
    rw [← bytes_eq]
    refine (derChild_tlv_of_ne ?_ ?_).trans (derChild_tlv_alone ?_)
    · decide
    · exact nofun
    · omega
  have listed : derChild 0x30 (tlv 0x30 (tlv 0x30 single)) = some (tlv 0x30 single) := by
    exact derChild_tlv_alone (by omega)
  unfold ocspResponses
  rw [opened]
  dsimp only [Option.bind_eq_bind, Option.bind_some]
  rw [wrapped]
  dsimp only [Option.bind_some]
  rw [derTlv_tlv_alone (by omega)]
  dsimp only [Option.bind_some]
  rw [held]
  dsimp only [Option.bind_some]
  rw [derTlv_tlv_alone (by omega)]
  dsimp only [Option.bind_some]
  rw [derTlv_tlv_alone (by omega)]
  dsimp only [Option.bind_some]
  rw [if_neg (not_not_intro rfl), listed]
  dsimp only [Option.bind_some]
  rw [derChildren_tlv_alone (by omega)]
  rfl

theorem derChildren_single : derChildren single =
    [(0x30, certid), (0xA1, tlv 0x18 (Text.utf8 "20250101000000Z"))] := by
  have small := length_certid
  unfold single
  rw [derChildren_tlv (by omega), derChildren_tlv_alone (by decide)]

theorem certidOf_single : certidOf (0x30, single) = some id := by
  unfold certidOf
  rw [derChildren_single, if_neg (not_not_intro rfl)]
  dsimp only [List.head?_cons]
  rw [if_pos rfl, parseCertid_certid]

theorem statusOf_single : statusOf (0x30, single) = some 0xA1 := by
  unfold statusOf
  rw [derChildren_single]
  rfl

theorem ocspCoversLink_ocsp : ocspCoversLink ocsp root leaf.serial = true := by
  unfold ocspCoversLink ocspCertids
  rw [ocspResponses_ocsp, Option.getD_some, List.filterMap_cons, certidOf_single]
  apply List.any_eq_true.mpr
  refine ⟨id, List.mem_cons_self, ?_⟩
  unfold id
  simp

theorem walked_leaf : walked material.embedded [] leaf = [leaf, root] := by
  rw [walked, if_neg (by decide)]
  have chosen : verifiedIssuer material.embedded leaf = some root := by
    unfold verifiedIssuer nameCandidates material
    rfl
  rw [chosen]
  dsimp only
  rw [walked, if_pos (.inl (by decide))]

theorem unsound (others : List UInt8 → List UInt8 → Option (List UInt8)) :
    ¬LtvSound others material := by
  intro sound
  have links_eq : links (walked material.embedded [] leaf) = [(leaf, root)] := by
    rw [walked_leaf]
    rfl
  have covered : linkRevocationCovered leaf root material.ocspDers material.crls = true := by
    unfold linkRevocationCovered material
    rw [List.any_cons, ocspCoversLink_ocsp]
    rfl
  have verified : (verifyLtvOffline material).verifiedOffline = true := by
    refine (verifiedOffline_iff rfl).mpr ⟨rfl, ?_, ?_⟩
    · rw [walked_leaf]
      exact ⟨root, rfl, by decide⟩
    · rw [links_eq]
      exact List.forall_mem_singleton.mpr covered
  obtain ⟨signer, parsed, -, walk⟩ := sound.right verified
  obtain rfl := Option.some.inj parsed
  refine walk.uncontradicted (leaf, root) ?_ (.inl ⟨ocsp, List.mem_singleton_self _, ?_⟩)
  · rw [links_eq]
    exact List.mem_singleton_self _
  · refine ⟨(0x30, single), ?_, id, 0xA1, certidOf_single, ⟨?_, ?_, rfl⟩, statusOf_single, nofun⟩
    · rw [ocspResponses_ocsp]
      exact List.mem_singleton_self _
    · exact if_pos rfl
    · exact if_pos rfl

end RevokedSigner

open Reference in
theorem not_ltvSound_revoked : ¬LtvSound (fun _ _ => none) RevokedSigner.material :=
  RevokedSigner.unsound _

end Chancela.Pades
