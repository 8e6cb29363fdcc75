import Mathlib.Data.List.Basic

/-! # Hexadecimal strings

A hexadecimal string is written between angle brackets as digits, among which white space means
nothing; a missing last digit counts as zero. The validator reads one in a single pass, with the
high digit of a byte in hand (`Chancela.Pades.decodeInner_eq`).
-/

namespace Chancela.Pades

def isPdfWhitespace (byte : UInt8) : Bool := byte ∈ [0, 9, 10, 12, 13, 32]

def hexValue (byte : UInt8) : Option UInt8 :=
  if 48 ≤ byte ∧ byte ≤ 57 then some (byte - 48)
  else if 97 ≤ byte ∧ byte ≤ 102 then some (byte - 97 + 10)
  else if 65 ≤ byte ∧ byte ≤ 70 then some (byte - 65 + 10)
  else none

/-- The bytes of a sequence of digits, the last of an odd number counting sixteenfold. -/
def pairUp : List UInt8 → List UInt8
  | [] => []
  | [high] => [high <<< 4]
  | high :: low :: rest => (high <<< 4 ||| low) :: pairUp rest

/-- The value of the text inside a hexadecimal string: its bytes, if all that is not white space
are digits. -/
def hexStringValue (inner : List UInt8) : Option (List UInt8) :=
  ((inner.filter (!isPdfWhitespace ·)).mapM hexValue).map pairUp

/-- The loop over the text inside the token, with the high digit in hand and what was decoded;
nothing where the code returns that the token does not match. -/
def decodeInner : List UInt8 → Option UInt8 → List UInt8 → Option (List UInt8)
  | [], none, decoded => some decoded
  | [], some high, decoded => some (decoded ++ [high <<< 4])
  | byte :: rest, hi, decoded =>
      match hexValue byte with
      | some nibble =>
          match hi with
          | none => decodeInner rest (some nibble) decoded
          | some high => decodeInner rest none (decoded ++ [high <<< 4 ||| nibble])
      | none => if isPdfWhitespace byte then decodeInner rest hi decoded else none

variable {inner : List UInt8} {byte : UInt8}

theorem hexValue_of_whitespace (blank : isPdfWhitespace byte = true) : hexValue byte = none := by
  unfold isPdfWhitespace at blank
  simp only [List.mem_cons, List.not_mem_nil, or_false, decide_eq_true_eq] at blank
  rcases blank with rfl | rfl | rfl | rfl | rfl | rfl <;> rfl

/-- **The pass reads the value** of the text, behind what was decoded and the digit in hand. -/
theorem decodeInner_eq (hi : Option UInt8) (decoded : List UInt8) :
    decodeInner inner hi decoded =
      ((inner.filter (!isPdfWhitespace ·)).mapM hexValue).map fun digits =>
        decoded ++ pairUp (hi.toList ++ digits) := by
  induction inner generalizing hi decoded with
  | nil => cases hi <;> simp [decodeInner, pairUp]
  | cons byte rest ih =>
      rw [decodeInner]
      by_cases blank : isPdfWhitespace byte = true
      · rw [hexValue_of_whitespace blank, if_pos blank, ih, List.filter_cons_of_neg]
        rw [blank]
        exact Bool.false_ne_true
      · rw [if_neg blank, List.filter_cons_of_pos (by simpa using blank), List.mapM_cons]
        cases hexValue byte with
        | none => rfl
        | some nibble =>
            cases hi with
            | none =>
                dsimp only
                rw [ih]
                cases (rest.filter (!isPdfWhitespace ·)).mapM hexValue <;> rfl
            | some high =>
                dsimp only
                rw [ih]
                cases (rest.filter (!isPdfWhitespace ·)).mapM hexValue with
                | none => rfl
                | some digits => simp [pairUp]

end Chancela.Pades
