import Chancela.Xades.Rox
import Chancela.Xades.XmlDsig

/-! # Validation of a XAdES signature

`validate_xades` reads a document twice: through `roxmltree` for what it says, and through the
canonicalizer for what is hashed.
-/

namespace Chancela.Xades

/-- `XadesLevel`, as far as it is reported. -/
inductive XadesLevel where
  | b
  | t
  | lt
deriving DecidableEq, Repr

structure XadesValidationReport where
  level : XadesLevel
  signatureValid : Bool
  referencesValid : Bool
  referenceCount : Nat
  referencesChecked : Nat
  signedPropertiesPresent : Bool
  signingCertificateV2Present : Bool
  signedPropertiesSigned : Bool
  signingTime : Option OffsetDateTime
  signerCertDer : Option (List UInt8)
  signatureTimestampPresent : Bool
  certificateValuesPresent : Bool
  revocationValuesPresent : Bool

def XadesValidationReport.isValidB (report : XadesValidationReport) : Bool :=
  report.signatureValid && report.referencesValid && decide (0 < report.referencesChecked) &&
    report.signedPropertiesSigned

/-- `Option::ok_or_else` with a verification error. -/
def orVerification {α : Type} (value : Option α) (message : String) : Except XadesError α :=
  match value with
  | some value => .ok value
  | none => .error (.verification message)

def findElementById (doc : List RoxElement) (id : List Char) : Option RoxElement :=
  doc.find? fun element => element.attributeValue "Id" = some id

def referenceC14nAlgorithm (reference : RoxElement) : C14nAlgorithm :=
  (((reference.descendants.filter fun element => element.hasTagName dsNs "Transform").filterMap
    fun element => element.attributeValue "Algorithm").findSome? C14nAlgorithm.fromUri).getD
      .exclusiveWithoutComments

def referenceDigestAlgorithm (reference : RoxElement) : Except XadesError DigestAlgorithm := do
  let method ← orVerification
    (reference.childElements.find? fun element => element.hasTagName dsNs "DigestMethod")
    "reference without DigestMethod"
  let algorithm ← orVerification (method.attributeValue "Algorithm")
    "DigestMethod without Algorithm"
  orVerification (DigestAlgorithm.fromUri algorithm)
    ("unsupported DigestMethod " ++ String.ofList algorithm)

section Validate

variable [DsigCrates]

def decodeCompact (text : List Char) (message : String) : Except XadesError (List UInt8) :=
  orVerification (DsigCrates.decode (text.filter fun c => !Text.isWhitespace c)) message

def firstX509Certificate (signature : RoxElement) : Except XadesError (Option (List UInt8)) :=
  match (signature.descendants.find? fun element =>
      element.hasTagName dsNs "X509Certificate").bind RoxElement.text with
  | some text => (decodeCompact text "X509Certificate is not base64").map some
  | none => .ok none

def parseSigningTime (text : List Char) : Option OffsetDateTime :=
  DsigCrates.parseRfc3339 (Text.trim (String.ofList text)).toList

/-- `verify_signature(..).is_ok()`. -/
def verifySignature (certDer : List UInt8) (signatureMethod : List Char)
    (signature message : List UInt8) : Bool :=
  DsigCrates.isCertificate certDer &&
    if signatureMethod = signatureMethodUri .rsaPkcs1Sha256 then
      DsigCrates.verifyRsa certDer signature message
    else if signatureMethod = signatureMethodUri .ecdsaP256Sha256 then
      DsigCrates.verifyEcdsa 256 certDer signature message
    else if signatureMethod = signatureMethodUri .ecdsaP384Sha384 then
      DsigCrates.verifyEcdsa 384 certDer signature message
    else if signatureMethod = signatureMethodUri .ecdsaP521Sha512 then
      DsigCrates.verifyEcdsa 521 certDer signature message
    else false

/-- The `DigestValue` of a reference. -/
def expectedDigest (reference : RoxElement) : Except XadesError (List UInt8) := do
  let text ← orVerification ((reference.descendants.find? fun element =>
      element.hasTagName dsNs "DigestValue").bind RoxElement.text)
    "reference without DigestValue"
  decodeCompact text "DigestValue is not base64"

/-- The element is a `SignedProperties` with what XAdES-B asks of it. -/
def isSignedProperties (element : RoxElement) : Bool :=
  element.hasTagName xadesNs "SignedProperties" &&
    (element.descendants.any fun inner => inner.hasTagName xadesNs "SigningCertificateV2") &&
    element.descendants.any fun inner => inner.hasTagName xadesNs "SigningTime"

variable [Crates] [QuickXml]

/-- What a reference is computed over, hashed; absent for external references. -/
def computedDigest (xml : List Char) (signatureId : Option (List Char)) (reference : RoxElement)
    (algorithm : DigestAlgorithm) : Except XadesError (Option (List UInt8)) :=
  match (reference.attributeValue "URI").getD [] with
  | '#' :: id => do
      let text ← canonicalizeElementById xml id (referenceC14nAlgorithm reference) []
      return some (algorithm.digest (Text.utf8 (String.ofList text)))
  | [] => do
      let text ← canonicalizeDocumentExcludingIds xml signatureId.toList
        (referenceC14nAlgorithm reference) []
      return some (algorithm.digest (Text.utf8 (String.ofList text)))
  | _ => return none

/-- What the loop over the references keeps. -/
structure Tally where
  checked : Nat
  valid : Bool
  propertiesSigned : Bool

def checkReference (xml : List Char) (doc : List RoxElement) (signatureId : Option (List Char))
    (tally : Tally) (reference : RoxElement) : Except XadesError Tally := do
  let expected ← expectedDigest reference
  let algorithm ← referenceDigestAlgorithm reference
  match ← computedDigest xml signatureId reference algorithm with
  | none => return tally
  | some computed =>
      if computed ≠ expected then
        return { tally with checked := tally.checked + 1, valid := false }
      else
        let covered := match (reference.attributeValue "URI").getD [] with
          | '#' :: id => (findElementById doc id).any isSignedProperties
          | _ => false
        return { tally with
          checked := tally.checked + 1
          propertiesSigned := tally.propertiesSigned || covered }

/-- `roxmltree::Document::parse`, with its error, and the elements of the document. -/
def parseDocument [Roxmltree] (xml : List Char) : Except XadesError (List RoxElement) :=
  match Roxmltree.document xml with
  | .ok nodes => .ok (roxElements 0 nodes)
  | .error message => .error (.xmlParse message)

def validateXades [Roxmltree] (xml : List Char) : Except XadesError XadesValidationReport := do
  let doc ← parseDocument xml
  checkUniqueIds xml
  let signature ← orVerification (doc.find? fun element => element.hasTagName dsNs "Signature")
    "no ds:Signature element"
  let signatureId := signature.attributeValue "Id"
  let signedInfo ← orVerification
    (signature.childElements.find? fun element => element.hasTagName dsNs "SignedInfo")
    "no ds:SignedInfo"
  let signedInfoId ← orVerification (signedInfo.attributeValue "Id")
    "ds:SignedInfo has no Id to canonicalize"
  let signatureMethod ← orVerification
    ((signedInfo.childElements.find? fun element =>
      element.hasTagName dsNs "SignatureMethod").bind fun element =>
        element.attributeValue "Algorithm")
    "no SignatureMethod"
  let signatureText ← orVerification
    ((signature.childElements.find? fun element =>
      element.hasTagName dsNs "SignatureValue").bind RoxElement.text)
    "no SignatureValue"
  let signatureValue ← decodeCompact signatureText "SignatureValue is not base64"
  let signerCertDer ← firstX509Certificate signature
  let signedInfoC14n ← canonicalizeElementById xml signedInfoId .exclusiveWithoutComments []
  let signatureValid := signerCertDer.any fun der =>
    verifySignature der signatureMethod signatureValue
      (Text.utf8 (String.ofList signedInfoC14n))
  let references := signedInfo.childElements.filter fun element =>
    element.hasTagName dsNs "Reference"
  let tally ← references.foldlM (checkReference xml doc signatureId) ⟨0, true, false⟩
  let holds := fun localName => doc.any fun element => element.hasTagName xadesNs localName
  let level :=
    if holds "SignatureTimeStamp" && holds "RevocationValues" then .lt
    else if holds "SignatureTimeStamp" then .t
    else .b
  return {
    level
    signatureValid
    referencesValid := tally.valid
    referenceCount := references.length
    referencesChecked := tally.checked
    signedPropertiesPresent := holds "SignedProperties"
    signingCertificateV2Present := holds "SigningCertificateV2"
    signedPropertiesSigned := tally.propertiesSigned
    signingTime := ((doc.find? fun element => element.hasTagName xadesNs "SigningTime").bind
      RoxElement.text).bind parseSigningTime
    signerCertDer
    signatureTimestampPresent := holds "SignatureTimeStamp"
    certificateValuesPresent := holds "CertificateValues"
    revocationValuesPresent := holds "RevocationValues" }

end Validate

end Chancela.Xades
