import Chancela.Crates.Reference

/-! # The crates of XML signatures

Base64, the longer SHA-2 digests, ECDSA signature encodings, certificates and RFC 3339 parsing
as parameters of the development.
-/

namespace Chancela

def isBase64Char (c : Char) : Bool := c.isAlphanum || c == '+' || c == '/' || c == '='

/-- The operations `chancela-xades` calls in other crates, next to those of `Crates`. -/
class DsigCrates where
  /-- `base64::engine::general_purpose::STANDARD.encode`. -/
  encode : List UInt8 → List Char
  /-- `STANDARD.decode`, absent on an error. -/
  decode : List Char → Option (List UInt8)
  /-- `sha2::Sha384::digest`. -/
  sha384 : List UInt8 → List UInt8
  /-- `sha2::Sha512::digest`. -/
  sha512 : List UInt8 → List UInt8
  /-- `ecdsa::Signature::from_der` and `to_bytes` on the curve with coordinates of this many
  bits. -/
  fixedWidth : Nat → List UInt8 → Option (List UInt8)
  /-- `x509_cert::Certificate::from_der(_).is_ok()`. -/
  isCertificate : List UInt8 → Bool
  /-- `RsaPublicKey::verify` over SHA-256, with the key of a certificate. -/
  verifyRsa : List UInt8 → List UInt8 → List UInt8 → Bool
  /-- `ecdsa::VerifyingKey::verify` on the curve with coordinates of this many bits, with the
  key of a certificate. -/
  verifyEcdsa : Nat → List UInt8 → List UInt8 → List UInt8 → Bool
  /-- `OffsetDateTime::parse(_, &Rfc3339).ok()`. -/
  parseRfc3339 : List Char → Option OffsetDateTime
  /-- Base64 text is made of letters, digits and three signs. -/
  encode_chars : ∀ bytes, ∀ c ∈ encode bytes, isBase64Char c = true

namespace Reference

def base64Digit (n : Nat) : Char :=
  if n < 26 then Char.ofNat (65 + n)
  else if n < 52 then Char.ofNat (71 + n)
  else if n < 62 then Char.ofNat (n - 4)
  else if n = 62 then '+' else '/'

def base64Encode : List UInt8 → List Char
  | [] => []
  | [a] => [base64Digit (a.toNat / 4), base64Digit (a.toNat % 4 * 16), '=', '=']
  | [a, b] => [base64Digit (a.toNat / 4), base64Digit (a.toNat % 4 * 16 + b.toNat / 16),
      base64Digit (b.toNat % 16 * 4), '=']
  | a :: b :: c :: rest =>
      base64Digit (a.toNat / 4) :: base64Digit (a.toNat % 4 * 16 + b.toNat / 16) ::
        base64Digit (b.toNat % 16 * 4 + c.toNat / 64) :: base64Digit (c.toNat % 64) ::
        base64Encode rest

def base64Value (c : Char) : Option Nat :=
  if 'A' ≤ c ∧ c ≤ 'Z' then some (c.toNat - 65)
  else if 'a' ≤ c ∧ c ≤ 'z' then some (c.toNat - 71)
  else if '0' ≤ c ∧ c ≤ '9' then some (c.toNat + 4)
  else if c = '+' then some 62
  else if c = '/' then some 63
  else none

/-- Base64 with canonical padding and no bits left over. -/
def base64Decode : List Char → Option (List UInt8)
  | [] => some []
  | [a, b, '=', '='] => do
      let a ← base64Value a
      let b ← base64Value b
      if b % 16 = 0 then some [UInt8.ofNat (a * 4 + b / 16)] else none
  | [a, b, c, '='] => do
      let a ← base64Value a
      let b ← base64Value b
      let c ← base64Value c
      if c % 4 = 0 then
        some [UInt8.ofNat (a * 4 + b / 16), UInt8.ofNat (b % 16 * 16 + c / 4)]
      else none
  | a :: b :: c :: d :: rest => do
      let a ← base64Value a
      let b ← base64Value b
      let c ← base64Value c
      let d ← base64Value d
      let rest ← base64Decode rest
      return UInt8.ofNat (a * 4 + b / 16) :: UInt8.ofNat (b % 16 * 16 + c / 4) ::
        UInt8.ofNat (c % 4 * 64 + d) :: rest
  | _ => none

theorem isBase64Char_base64Digit {n : Nat} (small : n < 64) :
    isBase64Char (base64Digit n) = true := by
  revert n
  decide

theorem isBase64Char_base64Encode (bytes : List UInt8) :
    ∀ c ∈ base64Encode bytes, isBase64Char c = true := by
  have pad : isBase64Char '=' = true := by decide
  fun_induction base64Encode bytes with
  | case1 => exact fun _ member => nomatch member
  | case2 a =>
      have bound := a.toNat_lt
      simp only [List.forall_mem_cons, List.not_mem_nil, IsEmpty.forall_iff, implies_true, and_true]
      exact ⟨isBase64Char_base64Digit (by omega), isBase64Char_base64Digit (by omega), pad, pad⟩
  | case3 a b =>
      have bound := a.toNat_lt
      have bound' := b.toNat_lt
      simp only [List.forall_mem_cons, List.not_mem_nil, IsEmpty.forall_iff, implies_true, and_true]
      exact ⟨isBase64Char_base64Digit (by omega), isBase64Char_base64Digit (by omega),
        isBase64Char_base64Digit (by omega), pad⟩
  | case4 a b c rest ih =>
      have bound := a.toNat_lt
      have bound' := b.toNat_lt
      have bound'' := c.toNat_lt
      simp only [List.forall_mem_cons]
      exact ⟨isBase64Char_base64Digit (by omega), isBase64Char_base64Digit (by omega),
        isBase64Char_base64Digit (by omega), isBase64Char_base64Digit (by omega), ih⟩

/-- Base64 as documented. No longer digest and no signature is known here. -/
scoped instance dsigCrates : DsigCrates where
  encode := base64Encode
  decode := base64Decode
  sha384 _ := []
  sha512 _ := []
  fixedWidth _ _ := none
  isCertificate _ := false
  verifyRsa _ _ _ := false
  verifyEcdsa _ _ _ _ := false
  parseRfc3339 _ := none
  encode_chars := isBase64Char_base64Encode

end Reference

end Chancela
