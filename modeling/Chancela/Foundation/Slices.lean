import Mathlib.Algebra.Group.Nat.Defs
import Mathlib.Data.List.Basic

/-! # Slices that may panic

Additions of machine words and slices of a sequence as a program performs them: an addition that
leaves the word and a slice that leaves the sequence stop it. What does not stop is the number
or the part of the sequence.
-/

namespace Chancela.Slices

/-- Why a program panics. -/
inductive Panic where
  | overflow
  | outOfRange
deriving DecidableEq

/-- How a call ends other than with a result: by a panic, or with an error of its own. -/
inductive Stop (ε : Type) where
  | panic (cause : Panic)
  | refused (error : ε)
deriving DecidableEq

variable {ε α : Type}

/-- `+` of two `usize`. -/
def addUsize (first second : Nat) : Except (Stop ε) Nat :=
  if first + second < 2 ^ 64 then .ok (first + second) else .error (.panic .overflow)

/-- `usize::checked_add`. -/
def checkedAddUsize (first second : Nat) : Option Nat :=
  if first + second < 2 ^ 64 then some (first + second) else none

/-- `-` of two `usize`. -/
def subUsize (first second : Nat) : Except (Stop ε) Nat :=
  if second ≤ first then .ok (first - second) else .error (.panic .overflow)

/-- `slice.get(start..stop)`. -/
def slice? (items : List α) (start stop : Nat) : Option (List α) :=
  if start ≤ stop ∧ stop ≤ items.length then some ((items.take stop).drop start) else none

/-- `&slice[start..stop]`. -/
def slice (items : List α) (start stop : Nat) : Except (Stop ε) (List α) :=
  match slice? items start stop with
  | some part => .ok part
  | none => .error (.panic .outOfRange)

/-- `ok_or`. -/
def orRefused (error : ε) : Option α → Except (Stop ε) α
  | some value => .ok value
  | none => .error (.refused error)

variable {items part : List α} {first second start stop : Nat}

theorem addUsize_of_lt (fits : first + second < 2 ^ 64) :
    (addUsize first second : Except (Stop ε) Nat) = .ok (first + second) := if_pos fits

theorem subUsize_of_le (ordered : second ≤ first) :
    (subUsize first second : Except (Stop ε) Nat) = .ok (first - second) := if_pos ordered

theorem slice?_of_le (ordered : start ≤ stop) (within : stop ≤ items.length) :
    slice? items start stop = some ((items.take stop).drop start) := if_pos ⟨ordered, within⟩

theorem slice_of_le (ordered : start ≤ stop) (within : stop ≤ items.length) :
    (slice items start stop : Except (Stop ε) (List α)) = .ok ((items.take stop).drop start) := by
  rw [slice, slice?_of_le ordered within]

theorem getElem?_slice {index : Nat} :
    ((items.take stop).drop start)[index]? =
      if start + index < stop then items[start + index]? else none := by
  rw [List.getElem?_drop, List.getElem?_take]

/-! ### Calls that do not panic -/

/-- A call that does not panic: it is refused, or gives a value that is as it should be. -/
def Settles (outcome : Except (Stop ε) α) (right : α → Prop) : Prop :=
  (∃ error, outcome = .error (.refused error)) ∨ ∃ value, outcome = .ok value ∧ right value

variable {right : α → Prop} {outcome : Except (Stop ε) α}

theorem Settles.bind {β : Type} {next : α → Except (Stop ε) β} {then_ : β → Prop}
    (settles : Settles outcome right) (step : ∀ value, right value → Settles (next value) then_) :
    Settles (outcome >>= next) then_ := by
  rcases settles with ⟨error, rfl⟩ | ⟨value, rfl, holds⟩
  · exact .inl ⟨error, rfl⟩
  · exact step value holds

theorem Settles.map {β : Type} {change : α → β} {then_ : β → Prop} (settles : Settles outcome right)
    (step : ∀ value, right value → then_ (change value)) : Settles (change <$> outcome) then_ := by
  rcases settles with ⟨error, rfl⟩ | ⟨value, rfl, holds⟩
  · exact .inl ⟨error, rfl⟩
  · exact .inr ⟨change value, rfl, step value holds⟩

theorem settles_ok {value : α} (holds : right value) :
    Settles (.ok value : Except (Stop ε) α) right := .inr ⟨value, rfl, holds⟩

theorem settles_refused {error : ε} : Settles (.error (.refused error) : Except (Stop ε) α) right := .inl ⟨error, rfl⟩

theorem settles_orRefused {error : ε} {found : Option α} :
    Settles (orRefused error found) fun value => found = some value := by
  cases found with
  | none => exact settles_refused
  | some value => exact settles_ok rfl

theorem Settles.not_panic (settles : Settles outcome right) (cause : Panic) :
    outcome ≠ .error (.panic cause) := by
  rcases settles with ⟨error, rfl⟩ | ⟨value, rfl, -⟩
  · exact nofun
  · exact nofun

theorem Settles.of_ok {value : α} (settles : Settles outcome right) (given : outcome = .ok value) :
    right value := by
  rcases settles with ⟨error, refused⟩ | ⟨other, found, holds⟩
  · rw [given] at refused
    cases refused
  · rw [given] at found
    cases found
    exact holds

end Chancela.Slices
