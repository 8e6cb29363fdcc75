import Mathlib.Data.Nat.Digits.Lemmas

/-! # Regrouping bits

Digits of one width are written out as digits of another, the highest bits first, with the bits
that do not yet fill a digit held back (`Chancela.Regroup.Accounts`). What is written is determined
(`Chancela.Regroup.Accounts.unique`), and digits filled up with zeros are regrouped back
(`Chancela.Regroup.Accounts.filled`). A machine word that overflows holds the bits back as well as a
number of any size (`Chancela.Regroup.held_shiftIn`).
-/

namespace Chancela.Regroup

/-- The number that digits of some width spell, the highest first. -/
def number (width : Nat) (digits : List Nat) : Nat := Nat.ofDigits (2 ^ width) digits.reverse

@[simp] theorem number_nil (width : Nat) : number width [] = 0 := rfl

theorem number_concat (width : Nat) (digits : List Nat) (digit : Nat) :
    number width (digits ++ [digit]) = number width digits * 2 ^ width + digit := by
  unfold number
  rw [List.reverse_append, List.reverse_singleton, List.singleton_append, Nat.ofDigits_cons]
  ring

theorem number_injective {width : Nat} (positive : 0 < width) {first second : List Nat}
    (long : first.length = second.length) (small : ∀ digit ∈ first, digit < 2 ^ width)
    (small' : ∀ digit ∈ second, digit < 2 ^ width)
    (same : number width first = number width second) : first = second := by
  have reversed : first.reverse = second.reverse := by
    refine Nat.ofDigits_inj_of_len_eq (Nat.one_lt_two_pow positive.ne') ?_ ?_ ?_ same
    · rw [List.length_reverse, List.length_reverse, long]
    · exact fun digit member => small digit (List.mem_reverse.mp member)
    · exact fun digit member => small' digit (List.mem_reverse.mp member)
  exact List.reverse_injective reversed

/-- The digits read are those written and the bits held back. -/
structure Accounts (inWidth outWidth : Nat) (read written : List Nat) (bits held : Nat) : Prop where
  length : inWidth * read.length = outWidth * written.length + bits
  value : number inWidth read = number outWidth written * 2 ^ bits + held
  held_lt : held < 2 ^ bits
  written_lt : ∀ digit ∈ written, digit < 2 ^ outWidth

namespace Accounts

variable {inWidth outWidth : Nat} {read written : List Nat} {bits held : Nat}

theorem start : Accounts inWidth outWidth [] [] 0 0 where
  length := rfl
  value := rfl
  held_lt := Nat.one_pos
  written_lt := by
    intro digit member
    cases member

theorem shiftIn (account : Accounts inWidth outWidth read written bits held) {digit : Nat}
    (small : digit < 2 ^ inWidth) :
    Accounts inWidth outWidth (read ++ [digit]) written (bits + inWidth)
      (held * 2 ^ inWidth + digit) where
  length := by
    rw [List.length_append, List.length_singleton, Nat.mul_add, account.length]
    omega
  value := by
    rw [number_concat, account.value, Nat.pow_add]
    ring
  held_lt := by
    have below : held + 1 ≤ 2 ^ bits := account.held_lt
    calc held * 2 ^ inWidth + digit < held * 2 ^ inWidth + 2 ^ inWidth := by omega
      _ = (held + 1) * 2 ^ inWidth := by ring
      _ ≤ 2 ^ bits * 2 ^ inWidth := Nat.mul_le_mul_right _ below
      _ = 2 ^ (bits + inWidth) := (Nat.pow_add ..).symm
  written_lt := account.written_lt

theorem shiftOut (account : Accounts inWidth outWidth read written (bits + outWidth) held) :
    Accounts inWidth outWidth read (written ++ [held / 2 ^ bits]) bits (held % 2 ^ bits) where
  length := by
    rw [account.length, List.length_append, List.length_singleton, Nat.mul_add]
    omega
  value := by
    have parts : held = held / 2 ^ bits * 2 ^ bits + held % 2 ^ bits :=
      (Nat.div_add_mod' held (2 ^ bits)).symm
    rw [account.value, number_concat, Nat.pow_add]
    calc number outWidth written * (2 ^ bits * 2 ^ outWidth) + held
        = number outWidth written * (2 ^ bits * 2 ^ outWidth) +
            (held / 2 ^ bits * 2 ^ bits + held % 2 ^ bits) := by rw [← parts]
      _ = (number outWidth written * 2 ^ outWidth + held / 2 ^ bits) * 2 ^ bits +
            held % 2 ^ bits := by ring
  held_lt := Nat.mod_lt _ (Nat.two_pow_pos bits)
  written_lt digit member := by
    rcases List.mem_append.mp member with earlier | last
    · exact account.written_lt digit earlier
    · rw [List.mem_singleton.mp last, Nat.div_lt_iff_lt_mul (Nat.two_pow_pos bits), ← Nat.pow_add,
        Nat.add_comm]
      exact account.held_lt

theorem unique {written' : List Nat} {bits' held' : Nat}
    (account : Accounts inWidth outWidth read written bits held) (short : bits < outWidth)
    (account' : Accounts inWidth outWidth read written' bits' held') (short' : bits' < outWidth) :
    written = written' ∧ bits = bits' ∧ held = held' := by
  have lengths : outWidth * written.length + bits = outWidth * written'.length + bits' :=
    account.length.symm.trans account'.length
  have sameBits : bits = bits' := by
    have modulo := congrArg (· % outWidth) lengths
    simpa only [Nat.mul_add_mod, Nat.mod_eq_of_lt short, Nat.mod_eq_of_lt short'] using modulo
  subst sameBits
  have values : number outWidth written * 2 ^ bits + held =
      number outWidth written' * 2 ^ bits + held' := account.value.symm.trans account'.value
  have sameHeld : held = held' := by
    have modulo := congrArg (· % 2 ^ bits) values
    simpa only [Nat.mul_add_mod', Nat.mod_eq_of_lt account.held_lt,
      Nat.mod_eq_of_lt account'.held_lt] using modulo
  have positive : 0 < outWidth := by omega
  refine ⟨number_injective positive ?_ account.written_lt account'.written_lt ?_, rfl, sameHeld⟩
  · exact Nat.eq_of_mul_eq_mul_left positive (Nat.add_right_cancel lengths)
  · rw [sameHeld] at values
    exact Nat.eq_of_mul_eq_mul_right (Nat.two_pow_pos bits) (Nat.add_right_cancel values)

theorem filled (account : Accounts inWidth outWidth read written bits held) {fill : Nat}
    (short : bits + fill = outWidth) (small : ∀ digit ∈ read, digit < 2 ^ inWidth) :
    Accounts outWidth inWidth (written ++ [held * 2 ^ fill]) read fill 0 where
  length := by
    rw [List.length_append, List.length_singleton, account.length, Nat.mul_add]
    omega
  value := by
    rw [number_concat, account.value, ← short, Nat.pow_add]
    ring
  held_lt := Nat.two_pow_pos fill
  written_lt := small

theorem exact (account : Accounts inWidth outWidth read written 0 held)
    (small : ∀ digit ∈ read, digit < 2 ^ inWidth) : Accounts outWidth inWidth written read 0 0 where
  length := account.length.symm
  value := by
    have none_ : held = 0 := Nat.lt_one_iff.mp account.held_lt
    rw [account.value, none_, Nat.pow_zero, Nat.mul_one, Nat.mul_one, Nat.add_zero]
  held_lt := Nat.one_pos
  written_lt := small

theorem held_eq (account : Accounts inWidth outWidth (read ++ [last]) written bits held)
    (short : bits ≤ inWidth) : held = last % 2 ^ bits := by
  obtain ⟨more, rfl⟩ := Nat.exists_eq_add_of_le short
  have value := account.value
  rw [number_concat, Nat.pow_add] at value
  have modulo := congrArg (· % 2 ^ bits) value
  have spread : number (bits + more) read * (2 ^ bits * 2 ^ more) + last =
      2 ^ bits * (number (bits + more) read * 2 ^ more) + last := by ring
  rw [spread] at modulo
  simpa only [Nat.mul_add_mod, Nat.mul_add_mod', Nat.mod_eq_of_lt account.held_lt] using
    modulo.symm

end Accounts

section Word

variable {buffer : UInt32} {bits width : Nat}

def held (buffer : UInt32) (bits : Nat) : Nat := buffer.toNat % 2 ^ bits

theorem held_shiftIn {digit : UInt32} (room : bits + width ≤ 32) (narrow : width < 32)
    (small : digit.toNat < 2 ^ width) :
    held (buffer <<< UInt32.ofNat width ||| digit) (bits + width) =
      held buffer bits * 2 ^ width + digit.toNat := by
  have amount : (UInt32.ofNat width).toNat % 32 = width := by
    rw [UInt32.toNat_ofNat', Nat.mod_eq_of_lt (by omega), Nat.mod_eq_of_lt (by omega)]
  have word : (buffer <<< UInt32.ofNat width ||| digit).toNat =
      (buffer.toNat % 2 ^ (32 - width)) * 2 ^ width + digit.toNat := by
    have whole : 2 ^ 32 = 2 ^ (32 - width) * 2 ^ width := by
      rw [← Nat.pow_add, Nat.sub_add_cancel narrow.le]
    rw [UInt32.toNat_or, UInt32.toNat_shiftLeft, amount, Nat.shiftLeft_eq, whole,
      Nat.mul_mod_mul_right, ← Nat.shiftLeft_eq, Nat.shiftLeft_add_eq_or_of_lt small]
  have kept : buffer.toNat % 2 ^ (32 - width) % 2 ^ bits = buffer.toNat % 2 ^ bits :=
    Nat.mod_mod_of_dvd _ (Nat.pow_dvd_pow 2 (by omega))
  unfold held
  rw [word, Nat.pow_add, Nat.mul_comm (2 ^ bits), Nat.mod_mul, Nat.mul_add_mod',
    Nat.mod_eq_of_lt small, Nat.add_comm, Nat.mul_comm _ (2 ^ width), Nat.mul_add_div
    (Nat.two_pow_pos width), Nat.div_eq_of_lt small, Nat.add_zero, kept, Nat.mul_comm]

theorem held_div (room : bits < 32) :
    held buffer (bits + width) / 2 ^ bits = (buffer >>> UInt32.ofNat bits).toNat % 2 ^ width := by
  have amount : (UInt32.ofNat bits).toNat % 32 = bits := by
    rw [UInt32.toNat_ofNat', Nat.mod_eq_of_lt (by omega), Nat.mod_eq_of_lt (by omega)]
  unfold held
  rw [UInt32.toNat_shiftRight, amount, Nat.shiftRight_eq_div_pow, Nat.pow_add,
    Nat.mod_mul_right_div_self]

theorem held_mod : held buffer (bits + width) % 2 ^ bits = held buffer bits :=
  Nat.mod_mod_of_dvd _ (Nat.pow_dvd_pow 2 (Nat.le_add_right bits width))

end Word

end Chancela.Regroup
