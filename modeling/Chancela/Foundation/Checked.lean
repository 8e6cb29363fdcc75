import Mathlib.Algebra.Order.Ring.Nat
import Mathlib.Data.Option.Basic

/-! # Checked machine arithmetic

The 32-bit operations that report an overflow instead of wrapping, and the
saturating ones, each with its value as a number. Plain sums and products of a width
panic where a result does not fit (`none`) in a build that checks its arithmetic, and
wrap in another one.
-/

namespace Chancela.Checked

def checkedAdd (first second : UInt32) : Option UInt32 :=
  if first.toNat + second.toNat < 2 ^ 32 then some (first + second) else none

def checkedSub (first second : UInt32) : Option UInt32 :=
  if second.toNat ≤ first.toNat then some (first - second) else none

def saturatingAdd (first second : UInt32) : UInt32 :=
  if first.toNat + second.toNat < 2 ^ 32 then first + second else 0xFFFFFFFF

def saturatingSub (first second : UInt32) : UInt32 :=
  if second.toNat ≤ first.toNat then first - second else 0

/-- `u16::try_from(count).unwrap_or(u16::MAX)`. -/
def saturatingCount (count : Nat) : UInt16 := if count < 2 ^ 16 then UInt16.ofNat count else 0xFFFF

theorem toNat_saturatingCount (count : Nat) :
    (saturatingCount count).toNat = min count (2 ^ 16 - 1) := by
  unfold saturatingCount
  split
  · rename_i fits
    rw [UInt16.toNat_ofNat', Nat.mod_eq_of_lt fits]
    omega
  · have largest : (0xFFFF : UInt16).toNat = 2 ^ 16 - 1 := rfl
    omega

variable {first second sum difference : UInt32}

theorem toNat_of_checkedAdd (added : checkedAdd first second = some sum) :
    sum.toNat = first.toNat + second.toNat := by
  unfold checkedAdd at added
  split at added
  · rename_i fits
    cases added
    rw [UInt32.toNat_add, Nat.mod_eq_of_lt fits]
  · cases added

theorem toNat_of_checkedSub (subtracted : checkedSub first second = some difference) :
    second.toNat ≤ first.toNat ∧ difference.toNat = first.toNat - second.toNat := by
  unfold checkedSub at subtracted
  split at subtracted
  · rename_i fits
    cases subtracted
    exact ⟨fits, UInt32.toNat_sub_of_le first second (UInt32.le_iff_toNat_le.mpr fits)⟩
  · cases subtracted

theorem toNat_saturatingAdd (first second : UInt32) :
    (saturatingAdd first second).toNat = min (first.toNat + second.toNat) (2 ^ 32 - 1) := by
  unfold saturatingAdd
  split
  · rename_i fits
    rw [UInt32.toNat_add, Nat.mod_eq_of_lt fits]
    omega
  · have largest : (0xFFFFFFFF : UInt32).toNat = 2 ^ 32 - 1 := rfl
    omega

theorem toNat_saturatingSub (first second : UInt32) :
    (saturatingSub first second).toNat = first.toNat - second.toNat := by
  unfold saturatingSub
  split
  · rename_i fits
    exact UInt32.toNat_sub_of_le first second (UInt32.le_iff_toNat_le.mpr fits)
  · rename_i exceeds
    have zero : (0 : UInt32).toNat = 0 := rfl
    omega

end Chancela.Checked

namespace Chancela

/-- Whether a build checks its arithmetic: `overflow-checks` of its profile. -/
inductive OverflowChecks where
  | on
  | off
deriving DecidableEq

namespace Machine

def narrow (checks : OverflowChecks) (width value : Nat) : Option Nat :=
  if value < 2 ^ width then some value
  else match checks with
    | .on => none
    | .off => some (value % 2 ^ width)

def add (checks : OverflowChecks) (width first second : Nat) : Option Nat :=
  narrow checks width (first + second)

def mul (checks : OverflowChecks) (width first second : Nat) : Option Nat :=
  narrow checks width (first * second)

variable {checks : OverflowChecks} {width value : Nat}

theorem narrow_of_lt (fits : value < 2 ^ width) : narrow checks width value = some value :=
  if_pos fits

theorem isSome_narrow_on_iff : (narrow .on width value).isSome ↔ value < 2 ^ width := by
  unfold narrow
  by_cases fits : value < 2 ^ width
  · rw [if_pos fits]
    exact iff_of_true rfl fits
  · rw [if_neg fits]
    exact iff_of_false Bool.false_ne_true fits

end Machine

end Chancela
