import Chancela.Foundation.Base64

/-! # Base64 of the crates

The two engines the program uses, as a parameter of the development. Both are strict: they
accept the text they write and no other.
-/

namespace Chancela

/-- A `base64::Engine`. -/
structure Base64Engine where
  encode : List UInt8 → List Char
  decode : List Char → Option (List UInt8)
  decode_encode : ∀ bytes, decode (encode bytes) = some bytes
  encode_of_decode : ∀ {text bytes}, decode text = some bytes → encode bytes = text

theorem Base64Engine.decode_injective (engine : Base64Engine) {first second : List Char}
    {bytes : List UInt8} (read : engine.decode first = some bytes)
    (read' : engine.decode second = some bytes) : first = second := by
  rw [← engine.encode_of_decode read, engine.encode_of_decode read']

/-- `base64::engine::general_purpose`. -/
class Base64Crate where
  /-- `STANDARD`. -/
  standard : Base64Engine
  /-- `URL_SAFE_NO_PAD`. -/
  urlSafeNoPad : Base64Engine
  /-- Six bits a character. -/
  length_urlSafeNoPad : ∀ bytes, (urlSafeNoPad.encode bytes).length = (4 * bytes.length + 2) / 3
  /-- A character is one byte long. -/
  ascii_urlSafeNoPad : ∀ bytes, ∀ c ∈ urlSafeNoPad.encode bytes, c.toNat < 128

namespace Reference

open Base64

/-- The value of a character, if it is in an alphabet of letters, digits and two signs. -/
def digitValue (plus slash : Char) (c : Char) : Option Nat :=
  if 'A' ≤ c ∧ c ≤ 'Z' then some (c.toNat - 65)
  else if 'a' ≤ c ∧ c ≤ 'z' then some (c.toNat - 71)
  else if '0' ≤ c ∧ c ≤ '9' then some (c.toNat + 4)
  else if c = plus then some 62
  else if c = slash then some 63
  else none

def digitChar (plus slash : Char) (n : Nat) : Char :=
  if n < 26 then Char.ofNat (65 + n)
  else if n < 52 then Char.ofNat (71 + n)
  else if n < 62 then Char.ofNat (n - 4)
  else if n = 62 then plus else slash

theorem digitChar_of_digitValue {plus slash c : Char} {n : Nat}
    (valued : digitValue plus slash c = some n) : n < 64 ∧ digitChar plus slash n = c := by
  have back : ∀ m, m = c.toNat → Char.ofNat m = c := by
    rintro m rfl
    exact Char.ofNat_toNat c
  simp only [digitValue, Char.le_def, UInt32.le_iff_toNat_le] at valued
  rw [digitChar]
  split at valued
  · next upper =>
      obtain ⟨low, high⟩ : 65 ≤ c.toNat ∧ c.toNat ≤ 90 := upper
      cases valued
      rw [if_pos (by omega)]
      exact ⟨by omega, back _ (by omega)⟩
  · split at valued
    · next lower =>
        obtain ⟨low, high⟩ : 97 ≤ c.toNat ∧ c.toNat ≤ 122 := lower
        cases valued
        rw [if_neg (by omega), if_pos (by omega)]
        exact ⟨by omega, back _ (by omega)⟩
    · split at valued
      · next digit =>
          obtain ⟨low, high⟩ : 48 ≤ c.toNat ∧ c.toNat ≤ 57 := digit
          cases valued
          rw [if_neg (by omega), if_neg (by omega), if_pos (by omega)]
          exact ⟨by omega, back _ (by omega)⟩
      · split at valued
        · next same =>
            cases valued
            exact ⟨by decide, by simp [same]⟩
        · split at valued
          · next same =>
              cases valued
              exact ⟨by decide, by simp [same]⟩
          · cases valued

def standardAlphabet : Alphabet where
  digit := digitChar '+' '/'
  value := digitValue '+' '/'
  value_digit := by decide
  digit_of_value _ _ := digitChar_of_digitValue
  value_pad := by decide

def urlAlphabet : Alphabet where
  digit := digitChar '-' '_'
  value := digitValue '-' '_'
  value_digit := by decide
  digit_of_value _ _ := digitChar_of_digitValue
  value_pad := by decide

theorem ascii_urlAlphabet {c : Char} (known : (urlAlphabet.value c).isSome = true) :
    c.toNat < 128 := by
  obtain ⟨n, valued⟩ := Option.isSome_iff_exists.mp known
  obtain ⟨small, rfl⟩ := urlAlphabet.digit_of_value c n valued
  revert n
  decide

scoped instance base64Crate : Base64Crate where
  standard := {
    encode := encodePadded standardAlphabet
    decode := decodePadded standardAlphabet
    decode_encode := decodePadded_encodePadded standardAlphabet
    encode_of_decode := encodePadded_of_decodePadded }
  urlSafeNoPad := {
    encode := encode urlAlphabet
    decode := decode urlAlphabet
    decode_encode := decode_encode urlAlphabet
    encode_of_decode := encode_of_decode urlAlphabet }
  length_urlSafeNoPad := length_encode urlAlphabet
  ascii_urlSafeNoPad bytes c member :=
    ascii_urlAlphabet (isSome_value_of_mem_encode urlAlphabet bytes c member)

end Reference

end Chancela
