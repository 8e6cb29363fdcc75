import Mathlib.Data.List.TakeWhile

/-! # Base64

Bytes as text over an alphabet of 64 digits, with and without padding. Every text is decoded
to one byte string at most, and only the text of these bytes is
(`Chancela.Base64.encode_of_decode`).
-/

namespace Chancela.Base64

/-- Sixty-four digits; none is the sign of the padding. -/
structure Alphabet where
  digit : Nat → Char
  value : Char → Option Nat
  value_digit : ∀ n < 64, value (digit n) = some n
  digit_of_value : ∀ c n, value c = some n → n < 64 ∧ digit n = c
  value_pad : value '=' = none

variable (alphabet : Alphabet)

/-- Three bytes are four digits; one byte is two, and two bytes are three. -/
def encode : List UInt8 → List Char
  | [] => []
  | [a] => [alphabet.digit (a.toNat / 4), alphabet.digit (a.toNat % 4 * 16)]
  | [a, b] =>
      [alphabet.digit (a.toNat / 4), alphabet.digit (a.toNat % 4 * 16 + b.toNat / 16),
        alphabet.digit (b.toNat % 16 * 4)]
  | a :: b :: c :: rest =>
      alphabet.digit (a.toNat / 4) :: alphabet.digit (a.toNat % 4 * 16 + b.toNat / 16) ::
        alphabet.digit (b.toNat % 16 * 4 + c.toNat / 64) :: alphabet.digit (c.toNat % 64) ::
        encode rest

/-- The bytes of a text; bits that are left over are zero. -/
def decode : List Char → Option (List UInt8)
  | [] => some []
  | [_] => none
  | [a, b] => do
      let a ← alphabet.value a
      let b ← alphabet.value b
      if b % 16 = 0 then some [UInt8.ofNat (a * 4 + b / 16)] else none
  | [a, b, c] => do
      let a ← alphabet.value a
      let b ← alphabet.value b
      let c ← alphabet.value c
      if c % 4 = 0 then
        some [UInt8.ofNat (a * 4 + b / 16), UInt8.ofNat (b % 16 * 16 + c / 4)]
      else none
  | a :: b :: c :: d :: rest => do
      let a ← alphabet.value a
      let b ← alphabet.value b
      let c ← alphabet.value c
      let d ← alphabet.value d
      let rest ← decode rest
      return UInt8.ofNat (a * 4 + b / 16) :: UInt8.ofNat (b % 16 * 16 + c / 4) ::
        UInt8.ofNat (c % 4 * 64 + d) :: rest

theorem ofNat_eq {n : Nat} {byte : UInt8} (same : n = byte.toNat) : UInt8.ofNat n = byte := by
  rw [same, UInt8.ofNat_toNat]

theorem decode_encode (bytes : List UInt8) :
    decode alphabet (encode alphabet bytes) = some bytes := by
  fun_induction encode alphabet bytes with
  | case1 => rfl
  | case2 a =>
      have bound := a.toNat_lt
      have first : UInt8.ofNat (a.toNat / 4 * 4 + a.toNat % 4 * 16 / 16) = a := ofNat_eq (by omega)
      have none_ : a.toNat % 4 * 16 % 16 = 0 := by omega
      simp only [decode, alphabet.value_digit _ (by omega : a.toNat / 4 < 64),
        alphabet.value_digit _ (by omega : a.toNat % 4 * 16 < 64), bind, Option.bind, none_,
        ↓reduceIte, first]
  | case3 a b =>
      have bound := a.toNat_lt
      have bound' := b.toNat_lt
      have first : UInt8.ofNat
          (a.toNat / 4 * 4 + (a.toNat % 4 * 16 + b.toNat / 16) / 16) = a := ofNat_eq (by omega)
      have second : UInt8.ofNat ((a.toNat % 4 * 16 + b.toNat / 16) % 16 * 16 +
          b.toNat % 16 * 4 / 4) = b := ofNat_eq (by omega)
      have none_ : b.toNat % 16 * 4 % 4 = 0 := by omega
      simp only [decode, alphabet.value_digit _ (by omega : a.toNat / 4 < 64),
        alphabet.value_digit _ (by omega : a.toNat % 4 * 16 + b.toNat / 16 < 64),
        alphabet.value_digit _ (by omega : b.toNat % 16 * 4 < 64), bind, Option.bind, none_,
        ↓reduceIte, first, second]
  | case4 a b c rest ih =>
      have bound := a.toNat_lt
      have bound' := b.toNat_lt
      have bound'' := c.toNat_lt
      have first : UInt8.ofNat
          (a.toNat / 4 * 4 + (a.toNat % 4 * 16 + b.toNat / 16) / 16) = a := ofNat_eq (by omega)
      have second : UInt8.ofNat ((a.toNat % 4 * 16 + b.toNat / 16) % 16 * 16 +
          (b.toNat % 16 * 4 + c.toNat / 64) / 4) = b := ofNat_eq (by omega)
      have third : UInt8.ofNat ((b.toNat % 16 * 4 + c.toNat / 64) % 4 * 64 +
          c.toNat % 64) = c := ofNat_eq (by omega)
      simp only [decode, alphabet.value_digit _ (by omega : a.toNat / 4 < 64),
        alphabet.value_digit _ (by omega : a.toNat % 4 * 16 + b.toNat / 16 < 64),
        alphabet.value_digit _ (by omega : b.toNat % 16 * 4 + c.toNat / 64 < 64),
        alphabet.value_digit _ (by omega : c.toNat % 64 < 64), bind, Option.bind, ih, first,
        second, third]
      rfl

theorem toNat_ofNat {n : Nat} (small : n < 256) : (UInt8.ofNat n).toNat = n := by
  rw [UInt8.toNat_ofNat']
  exact Nat.mod_eq_of_lt small

/-- **Only the text of some bytes is decoded to them.** -/
theorem encode_of_decode {text : List Char} {bytes : List UInt8}
    (decoded : decode alphabet text = some bytes) : encode alphabet bytes = text := by
  fun_induction decode alphabet text generalizing bytes with
  | case1 =>
      cases decoded
      rfl
  | case2 => cases decoded
  | case3 a b =>
      simp only [bind, Option.bind_eq_some_iff] at decoded
      obtain ⟨n, first, m, second, rest⟩ := decoded
      obtain ⟨small, rfl⟩ := alphabet.digit_of_value _ _ first
      obtain ⟨small', rfl⟩ := alphabet.digit_of_value _ _ second
      split at rest
      · cases rest
        have place : (n * 4 + m / 16) / 4 = n := by omega
        have place' : (n * 4 + m / 16) % 4 * 16 = m := by omega
        rw [encode, toNat_ofNat (by omega), place, place']
      · cases rest
  | case4 a b c =>
      simp only [bind, Option.bind_eq_some_iff] at decoded
      obtain ⟨n, first, m, second, k, third, rest⟩ := decoded
      obtain ⟨bound, rfl⟩ := alphabet.digit_of_value _ _ first
      obtain ⟨bound', rfl⟩ := alphabet.digit_of_value _ _ second
      obtain ⟨bound'', rfl⟩ := alphabet.digit_of_value _ _ third
      split at rest
      · cases rest
        have place : (n * 4 + m / 16) / 4 = n := by omega
        have place' : (n * 4 + m / 16) % 4 * 16 + (m % 16 * 16 + k / 4) / 16 = m := by omega
        have place'' : (m % 16 * 16 + k / 4) % 16 * 4 = k := by omega
        rw [encode, toNat_ofNat (by omega), toNat_ofNat (by omega), place, place', place'']
      · cases rest
  | case5 a b c d rest ih =>
      simp only [bind, Option.bind_eq_some_iff] at decoded
      obtain ⟨n, first, m, second, k, third, l, fourth, others, later, rest⟩ := decoded
      obtain ⟨bound, rfl⟩ := alphabet.digit_of_value _ _ first
      obtain ⟨bound', rfl⟩ := alphabet.digit_of_value _ _ second
      obtain ⟨bound'', rfl⟩ := alphabet.digit_of_value _ _ third
      obtain ⟨last, rfl⟩ := alphabet.digit_of_value _ _ fourth
      cases rest
      have place : (n * 4 + m / 16) / 4 = n := by omega
      have place' : (n * 4 + m / 16) % 4 * 16 + (m % 16 * 16 + k / 4) / 16 = m := by omega
      have place'' : (m % 16 * 16 + k / 4) % 16 * 4 + (k % 4 * 64 + l) / 64 = k := by omega
      have final : (k % 4 * 64 + l) % 64 = l := by omega
      rw [encode, toNat_ofNat (by omega), toNat_ofNat (by omega), toNat_ofNat (by omega), place,
        place', place'', final, ih later]

theorem length_encode (bytes : List UInt8) :
    (encode alphabet bytes).length = (4 * bytes.length + 2) / 3 := by
  fun_induction encode alphabet bytes with
  | case1 => rfl
  | case2 a => simp
  | case3 a b => simp
  | case4 a b c rest ih =>
      simp only [List.length_cons, ih]
      omega

theorem isSome_value_of_mem_encode (bytes : List UInt8) :
    ∀ c ∈ encode alphabet bytes, (alphabet.value c).isSome = true := by
  have known : ∀ n < 64, (alphabet.value (alphabet.digit n)).isSome = true := fun n small => by
    rw [alphabet.value_digit n small]
    rfl
  fun_induction encode alphabet bytes with
  | case1 => exact fun _ member => nomatch member
  | case2 a =>
      have bound := a.toNat_lt
      simp only [List.forall_mem_cons, List.not_mem_nil, IsEmpty.forall_iff, implies_true, and_true]
      exact ⟨known _ (by omega), known _ (by omega)⟩
  | case3 a b =>
      have bound := a.toNat_lt
      have bound' := b.toNat_lt
      simp only [List.forall_mem_cons, List.not_mem_nil, IsEmpty.forall_iff, implies_true, and_true]
      exact ⟨known _ (by omega), known _ (by omega), known _ (by omega)⟩
  | case4 a b c rest ih =>
      have bound := a.toNat_lt
      have bound' := b.toNat_lt
      have bound'' := c.toNat_lt
      simp only [List.forall_mem_cons]
      exact ⟨known _ (by omega), known _ (by omega), known _ (by omega), known _ (by omega), ih⟩

/-! ## Padding -/

def pad (text : List Char) : List Char := text ++ List.replicate ((4 - text.length % 4) % 4) '='

def encodePadded (bytes : List UInt8) : List Char := pad (encode alphabet bytes)

def decodePadded (text : List Char) : Option (List UInt8) :=
  let body := text.takeWhile (· ≠ '=')
  if pad body = text then decode alphabet body else none

theorem takeWhile_pad {text : List Char} (unpadded : '=' ∉ text) :
    (pad text).takeWhile (· ≠ '=') = text := by
  have whole : text.takeWhile (fun c => decide (c ≠ '=')) = text :=
    List.takeWhile_eq_self_iff.mpr fun c member =>
      decide_eq_true fun same => unpadded (same ▸ member)
  rw [pad, List.takeWhile_append, whole, if_pos rfl, List.takeWhile_replicate]
  simp

theorem decodePadded_encodePadded (bytes : List UInt8) :
    decodePadded alphabet (encodePadded alphabet bytes) = some bytes := by
  have unpadded : '=' ∉ encode alphabet bytes := by
    intro member
    have known := isSome_value_of_mem_encode alphabet bytes '=' member
    rw [alphabet.value_pad] at known
    cases known
  rw [decodePadded, encodePadded, takeWhile_pad unpadded]
  exact (if_pos rfl).trans (decode_encode alphabet bytes)

variable {alphabet}

theorem encodePadded_of_decodePadded {text : List Char} {bytes : List UInt8}
    (decoded : decodePadded alphabet text = some bytes) : encodePadded alphabet bytes = text := by
  rw [decodePadded] at decoded
  split at decoded
  · next whole => rw [encodePadded, encode_of_decode alphabet decoded, whole]
  · cases decoded

end Chancela.Base64
