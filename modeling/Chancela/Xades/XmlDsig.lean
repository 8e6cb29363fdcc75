import Chancela.Crates.Dsig
import Chancela.Xades.C14n

/-! # XML signatures

`XmlDsigBuilder` writes a `ds:Signature` around a signature value. The signer is given the
digest of the canonical `ds:SignedInfo` of a wrapper that holds nothing else. Values are
written into the text as they are.
-/

namespace Chancela.Xades

open Markup

def dsNs : List Char := "http://www.w3.org/2000/09/xmldsig#".toList

def xadesNs : List Char := "http://uri.etsi.org/01903/v1.3.2#".toList

inductive SignatureAlgorithm where
  | rsaPkcs1Sha256
  | ecdsaP256Sha256
  | ecdsaP384Sha384
  | ecdsaP521Sha512
deriving DecidableEq, Repr

inductive DigestAlgorithm where
  | sha256
  | sha384
  | sha512
deriving DecidableEq, Repr

namespace DigestAlgorithm

def uri : DigestAlgorithm → List Char
  | sha256 => "http://www.w3.org/2001/04/xmlenc#sha256".toList
  | sha384 => "http://www.w3.org/2001/04/xmldsig-more#sha384".toList
  | sha512 => "http://www.w3.org/2001/04/xmlenc#sha512".toList

def fromUri (name : List Char) : Option DigestAlgorithm :=
  [sha256, sha384, sha512].find? fun algorithm => algorithm.uri = name

def digest [Crates] [DsigCrates] (bytes : List UInt8) : DigestAlgorithm → List UInt8
  | sha256 => (Chancela.sha256 bytes).toList
  | sha384 => DsigCrates.sha384 bytes
  | sha512 => DsigCrates.sha512 bytes

end DigestAlgorithm

def digestAlgorithmFor : SignatureAlgorithm → DigestAlgorithm
  | .rsaPkcs1Sha256 | .ecdsaP256Sha256 => .sha256
  | .ecdsaP384Sha384 => .sha384
  | .ecdsaP521Sha512 => .sha512

def signatureMethodUri : SignatureAlgorithm → List Char
  | .rsaPkcs1Sha256 => "http://www.w3.org/2001/04/xmldsig-more#rsa-sha256".toList
  | .ecdsaP256Sha256 => "http://www.w3.org/2001/04/xmldsig-more#ecdsa-sha256".toList
  | .ecdsaP384Sha384 => "http://www.w3.org/2001/04/xmldsig-more#ecdsa-sha384".toList
  | .ecdsaP521Sha512 => "http://www.w3.org/2001/04/xmldsig-more#ecdsa-sha512".toList

/-- What `RawSignature` gives to `assemble`. -/
structure RawSignature where
  algorithm : SignatureAlgorithm
  signature : List UInt8

def signatureValueBytes [DsigCrates] (raw : RawSignature) : Except XadesError (List UInt8) :=
  let fixed (width : Nat) := match DsigCrates.fixedWidth width raw.signature with
    | some bytes => .ok bytes
    | none => .error (.verification "ECDSA signature is not valid DER")
  match raw.algorithm with
  | .rsaPkcs1Sha256 => .ok raw.signature
  | .ecdsaP256Sha256 => fixed 256
  | .ecdsaP384Sha384 => fixed 384
  | .ecdsaP521Sha512 => fixed 521

/-- A prepared `Reference`. -/
structure DsigReference where
  uri : List Char
  id : Option (List Char)
  refType : Option (List Char)
  transforms : List (List Char)
  digest : List UInt8

structure XmlDsigBuilder where
  signatureId : List Char
  sigAlg : SignatureAlgorithm
  references : List DsigReference
  objects : List (List Char)
  certDers : List (List UInt8)
  signatureNs : List (List Char × List Char)

def elementText (name : String) (attributes : List (List Char × List Char)) (content : List Char) :
    List Char :=
  (Piece.start name.toList attributes).spell ++ content ++ (Piece.finish name.toList).spell

section Text

variable [DsigCrates]

/-- A `ds:Reference` as `signed_info_xml` writes it. -/
def DsigReference.xml (digestUri : List Char) (reference : DsigReference) : List Char :=
  elementText "ds:Reference"
    (reference.id.toList.map (fun id => ("Id".toList, id)) ++ ("URI".toList, reference.uri) ::
      reference.refType.toList.map fun name => ("Type".toList, name))
    ((if reference.transforms = [] then []
      else elementText "ds:Transforms" [] (reference.transforms.flatMap fun transform =>
        elementText "ds:Transform" [("Algorithm".toList, transform)] [])) ++
      elementText "ds:DigestMethod" [("Algorithm".toList, digestUri)] [] ++
      elementText "ds:DigestValue" [] (DsigCrates.encode reference.digest))

namespace XmlDsigBuilder

variable (builder : XmlDsigBuilder)

def signedInfoId : List Char := builder.signatureId ++ "-signedinfo".toList

def signatureValueId : List Char := builder.signatureId ++ "-sigvalue".toList

def digestAlgorithm : DigestAlgorithm := digestAlgorithmFor builder.sigAlg

def signedInfoXml : List Char :=
  elementText "ds:SignedInfo" [("Id".toList, builder.signedInfoId)]
    (elementText "ds:CanonicalizationMethod"
        [("Algorithm".toList, C14nAlgorithm.exclusiveWithoutComments.uri.toList)] [] ++
      elementText "ds:SignatureMethod"
        [("Algorithm".toList, signatureMethodUri builder.sigAlg)] [] ++
      builder.references.flatMap (DsigReference.xml builder.digestAlgorithm.uri))

/-- The namespace declarations of `ds:Signature`. -/
def nsAttributes : List (List Char × List Char) :=
  ("xmlns:ds".toList, dsNs) ::
    builder.signatureNs.map fun entry => ("xmlns:".toList ++ entry.1, entry.2)

def keyInfoXml : List Char :=
  if builder.certDers = [] then []
  else elementText "ds:KeyInfo" [] (elementText "ds:X509Data" []
    (builder.certDers.flatMap fun der =>
      elementText "ds:X509Certificate" [] (DsigCrates.encode der)))

/-- The text `signed_info_c14n` canonicalizes. -/
def wrapper : List Char :=
  elementText "ds:Signature" builder.nsAttributes builder.signedInfoXml

def signedInfoC14n [QuickXml] : Except XadesError (List Char) :=
  canonicalizeElementById builder.wrapper builder.signedInfoId .exclusiveWithoutComments []

def signedInfoDigest [Crates] [QuickXml] : Except XadesError (List UInt8) := do
  let text ← builder.signedInfoC14n
  return builder.digestAlgorithm.digest (Text.utf8 (String.ofList text))

def assemble (raw : RawSignature) : Except XadesError (List Char) := do
  let value ← signatureValueBytes raw
  return elementText "ds:Signature"
    (builder.nsAttributes ++ [("Id".toList, builder.signatureId)])
    (builder.signedInfoXml ++
      elementText "ds:SignatureValue" [("Id".toList, builder.signatureValueId)]
        (DsigCrates.encode value) ++
      builder.keyInfoXml ++ builder.objects.flatten)

end XmlDsigBuilder

end Text

end Chancela.Xades
