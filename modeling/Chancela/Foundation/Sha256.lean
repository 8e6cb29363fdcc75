import Mathlib.Data.List.Basic

/-! # SHA-256

The hash function of FIPS 180-4 over byte lists. Words are natural numbers below
`2 ^ 32`, which the kernel computes with directly.
-/

namespace Chancela.Sha256

def word (number : Nat) : Nat := number % 4294967296

def rotr (count number : Nat) : Nat :=
  word ((number >>> count) ||| (number <<< (32 - count)))

def bigSigma0 (x : Nat) : Nat := rotr 2 x ^^^ rotr 13 x ^^^ rotr 22 x
def bigSigma1 (x : Nat) : Nat := rotr 6 x ^^^ rotr 11 x ^^^ rotr 25 x
def smallSigma0 (x : Nat) : Nat := rotr 7 x ^^^ rotr 18 x ^^^ (x >>> 3)
def smallSigma1 (x : Nat) : Nat := rotr 17 x ^^^ rotr 19 x ^^^ (x >>> 10)
def choose (x y z : Nat) : Nat := (x &&& y) ^^^ ((4294967295 - x) &&& z)
def majority (x y z : Nat) : Nat := (x &&& y) ^^^ (x &&& z) ^^^ (y &&& z)

def roundConstants : List Nat :=
  [0x428a2f98, 0x71374491, 0xb5c0fbcf, 0xe9b5dba5, 0x3956c25b, 0x59f111f1, 0x923f82a4, 0xab1c5ed5,
   0xd807aa98, 0x12835b01, 0x243185be, 0x550c7dc3, 0x72be5d74, 0x80deb1fe, 0x9bdc06a7, 0xc19bf174,
   0xe49b69c1, 0xefbe4786, 0x0fc19dc6, 0x240ca1cc, 0x2de92c6f, 0x4a7484aa, 0x5cb0a9dc, 0x76f988da,
   0x983e5152, 0xa831c66d, 0xb00327c8, 0xbf597fc7, 0xc6e00bf3, 0xd5a79147, 0x06ca6351, 0x14292967,
   0x27b70a85, 0x2e1b2138, 0x4d2c6dfc, 0x53380d13, 0x650a7354, 0x766a0abb, 0x81c2c92e, 0x92722c85,
   0xa2bfe8a1, 0xa81a664b, 0xc24b8b70, 0xc76c51a3, 0xd192e819, 0xd6990624, 0xf40e3585, 0x106aa070,
   0x19a4c116, 0x1e376c08, 0x2748774c, 0x34b0bcb5, 0x391c0cb3, 0x4ed8aa4a, 0x5b9cca4f, 0x682e6ff3,
   0x748f82ee, 0x78a5636f, 0x84c87814, 0x8cc70208, 0x90befffa, 0xa4506ceb, 0xbef9a3f7, 0xc67178f2]

/-- The eight working words. -/
structure State where
  a : Nat
  b : Nat
  c : Nat
  d : Nat
  e : Nat
  f : Nat
  g : Nat
  h : Nat
deriving DecidableEq, Repr

def initial : State :=
  ⟨0x6a09e667, 0xbb67ae85, 0x3c6ef372, 0xa54ff53a, 0x510e527f, 0x9b05688c, 0x1f83d9ab, 0x5be0cd19⟩

def round (state : State) (constant scheduled : Nat) : State :=
  let first := word (state.h + bigSigma1 state.e + choose state.e state.f state.g + constant +
    scheduled)
  let second := word (bigSigma0 state.a + majority state.a state.b state.c)
  ⟨word (first + second), state.a, state.b, state.c, word (state.d + first), state.e, state.f,
    state.g⟩

/-- The message schedule as a window of sixteen words, moved on by one word. -/
def slide (window : List Nat) : List Nat :=
  window.tail ++ [word (smallSigma1 (window.getD 14 0) + window.getD 9 0 +
    smallSigma0 (window.getD 1 0) + window.getD 0 0)]

/-- The rounds of one block, one for each remaining constant. -/
def rounds : List Nat → List Nat → State → State
  | [], _, state => state
  | constant :: rest, window, state =>
      rounds rest (slide window) (round state constant (window.getD 0 0))

def blockWords : Nat → List UInt8 → List Nat
  | 0, _ => []
  | count + 1, bytes =>
      (bytes.take 4).foldl (fun number byte => number * 256 + byte.toNat) 0 ::
        blockWords count (bytes.drop 4)

def compress (state : State) (block : List UInt8) : State :=
  let mixed := rounds roundConstants (blockWords 16 block) state
  ⟨word (state.a + mixed.a), word (state.b + mixed.b), word (state.c + mixed.c),
    word (state.d + mixed.d), word (state.e + mixed.e), word (state.f + mixed.f),
    word (state.g + mixed.g), word (state.h + mixed.h)⟩

/-- The number's `width` low bytes, most significant first. -/
def bytesOf (width number : Nat) : List UInt8 :=
  (List.range width).reverse.map fun index => UInt8.ofNat (number >>> (8 * index))

/-- The message followed by a set bit, zeros and its bit length. -/
def pad (message : List UInt8) : List UInt8 :=
  message ++ 0x80 :: (List.replicate ((119 - message.length % 64) % 64) 0 ++
    bytesOf 8 (8 * message.length))

/-- The blocks of a padded message, one after the other. -/
def absorb : Nat → List UInt8 → State → State
  | 0, _, state => state
  | count + 1, bytes, state => absorb count (bytes.drop 64) (compress state (bytes.take 64))

def hash (message : List UInt8) : Vector UInt8 32 :=
  let padded := pad message
  let final := absorb (padded.length / 64) padded initial
  ⟨([final.a, final.b, final.c, final.d, final.e, final.f, final.g, final.h].flatMap
      (bytesOf 4)).toArray, by simp [bytesOf]⟩

-- The one-block example of the standard, on "abc".
example : (hash [0x61, 0x62, 0x63]).toList.map UInt8.toNat =
    [0xba, 0x78, 0x16, 0xbf, 0x8f, 0x01, 0xcf, 0xea, 0x41, 0x41, 0x40, 0xde, 0x5d, 0xae, 0x22, 0x23,
     0xb0, 0x03, 0x61, 0xa3, 0x96, 0x17, 0x7a, 0x9c, 0xb4, 0x10, 0xff, 0x61, 0xf2, 0x00, 0x15,
       0xad] := by
  decide +kernel

end Chancela.Sha256
