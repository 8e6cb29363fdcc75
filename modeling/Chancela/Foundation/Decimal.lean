import Mathlib.Data.Nat.Digits.Lemmas

/-! # Decimal numerals

Numbers as the bytes a formatter writes and a reader takes back. A numeral that is
followed by something else than a digit can be read in one way only.
-/

namespace Chancela.Decimal

/-- `u8::is_ascii_digit`. -/
def isDigit (byte : UInt8) : Bool := 48 ≤ byte && byte ≤ 57

/-- `{}` of a number. -/
def decimal (number : Nat) : List UInt8 :=
  if number = 0 then [48]
  else (Nat.digits 10 number).reverse.map fun digit => UInt8.ofNat (48 + digit)

/-- `{:0width}` of a number. -/
def padded (width number : Nat) : List UInt8 :=
  List.replicate (width - (decimal number).length) 48 ++ decimal number

def value (text : List UInt8) : Nat := Nat.ofDigits 10 (text.map (·.toNat - 48)).reverse

/-- A text of digits that stands for a number. -/
structure Numeral (text : List UInt8) (number : Nat) : Prop where
  nonempty : text ≠ []
  digits : ∀ byte ∈ text, isDigit byte = true
  value_eq : value text = number

theorem toNat_digit {digit : Nat} (small : digit < 10) :
    (UInt8.ofNat (48 + digit)).toNat = 48 + digit := by
  rw [UInt8.toNat_ofNat']
  omega

theorem isDigit_digit {digit : Nat} (small : digit < 10) :
    isDigit (UInt8.ofNat (48 + digit)) = true := by
  have read := toNat_digit small
  simp only [isDigit, Bool.and_eq_true, decide_eq_true_eq, UInt8.le_iff_toNat_le, read]
  exact ⟨Nat.le_add_right _ _, Nat.add_le_add_left (Nat.le_of_lt_succ small) 48⟩

theorem numeral_decimal (number : Nat) : Numeral (decimal number) number := by
  by_cases zero : number = 0
  · subst zero
    refine ⟨List.cons_ne_nil _ _, ?_, rfl⟩
    intro byte member
    rw [List.mem_singleton.mp member]
    rfl
  have small : ∀ digit ∈ Nat.digits 10 number, digit < 10 := fun digit member =>
    Nat.digits_lt_base (by decide) member
  refine ⟨?_, ?_, ?_⟩
  · simp only [decimal, zero, ↓reduceIte, ne_eq, List.map_eq_nil_iff, List.reverse_eq_nil_iff,
      Nat.digits_eq_nil_iff_eq_zero, not_false_eq_true]
  · intro byte member
    simp only [decimal, zero, ↓reduceIte, List.mem_map, List.mem_reverse] at member
    obtain ⟨digit, inside, rfl⟩ := member
    exact isDigit_digit (small digit inside)
  · have read : ((Nat.digits 10 number).map fun digit => (UInt8.ofNat (48 + digit)).toNat - 48) =
        Nat.digits 10 number := by
      refine (List.map_congr_left fun digit inside => ?_).trans (List.map_id _)
      rw [toNat_digit (small digit inside), Nat.add_sub_cancel_left, id]
    simp only [value, decimal, zero, ↓reduceIte, List.map_map, ← List.map_reverse,
      List.reverse_reverse, Function.comp_def, read, Nat.ofDigits_digits]

theorem numeral_padded (width number : Nat) : Numeral (padded width number) number := by
  obtain ⟨nonempty, digits, valued⟩ := numeral_decimal number
  refine ⟨?_, ?_, ?_⟩
  · exact List.append_ne_nil_of_right_ne_nil _ nonempty
  · intro byte member
    rcases List.mem_append.mp member with zeros | inside
    · rw [List.eq_of_mem_replicate zeros]
      decide
    · exact digits byte inside
  · rw [value, padded, List.map_append, List.reverse_append, List.map_replicate,
      List.reverse_replicate]
    exact (Nat.ofDigits_append_replicate_zero _).trans valued

theorem length_decimal_le_iff {width number : Nat} (positive : 0 < width) :
    (decimal number).length ≤ width ↔ number < 10 ^ width := by
  by_cases zero : number = 0
  · subst zero
    exact iff_of_true positive (Nat.pow_pos (by decide))
  · simp only [decimal, zero, ↓reduceIte, List.length_map, List.length_reverse,
      Nat.digits_length_le_iff (by decide : 1 < 10)]

theorem length_padded (width number : Nat) :
    (padded width number).length = max width (decimal number).length := by
  rw [padded, List.length_append, List.length_replicate]
  omega

theorem length_padded_eq_iff {width number : Nat} (positive : 0 < width) :
    (padded width number).length = width ↔ number < 10 ^ width := by
  rw [length_padded, ← length_decimal_le_iff positive, max_eq_left_iff]

theorem notMem_of_digits {text : List UInt8} {byte : UInt8}
    (digits : ∀ byte ∈ text, isDigit byte = true) (undigit : isDigit byte = false) :
    byte ∉ text := by
  intro member
  rw [digits byte member] at undigit
  cases undigit

theorem numeral_unique {first second : List UInt8} {number number' : Nat}
    (read : Numeral first number) (read' : Numeral second number') (same : first = second) :
    number = number' := by rw [← read.value_eq, ← read'.value_eq, same]

/-- **Numerals end where their digits do.** Two texts of digits, each followed by
something else, that begin one list are the same text. -/
theorem digits_unique {first second rest rest' : List UInt8} {stop stop' : UInt8}
    (digits : ∀ byte ∈ first, isDigit byte = true) (digits' : ∀ byte ∈ second, isDigit byte = true)
    (stops : isDigit stop = false) (stops' : isDigit stop' = false)
    (same : first ++ stop :: rest = second ++ stop' :: rest') :
    first = second ∧ stop = stop' ∧ rest = rest' := by
  have leading := congrArg (List.takeWhile isDigit) same
  rw [List.takeWhile_append_of_pos digits, List.takeWhile_append_of_pos digits',
    List.takeWhile_cons_of_neg (by simp [stops]), List.takeWhile_cons_of_neg (by simp [stops']),
    List.append_nil, List.append_nil] at leading
  subst leading
  exact ⟨rfl, List.cons.inj (List.append_cancel_left same)⟩

theorem digits_unique_blank {first second rest rest' : List UInt8}
    (digits : ∀ byte ∈ first, isDigit byte = true) (digits' : ∀ byte ∈ second, isDigit byte = true)
    (same : first ++ 32 :: rest = second ++ 32 :: rest') : first = second ∧ rest = rest' := by
  obtain ⟨equal, -, others⟩ := digits_unique digits digits' rfl rfl same
  exact ⟨equal, others⟩

end Chancela.Decimal
