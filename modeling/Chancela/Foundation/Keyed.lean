import Mathlib.Data.Option.Basic
import Mathlib.Logic.Function.Basic

/-! # Keyed entries

Maps of which only the lookups are observed: an entry is inserted or replaced, erased, or
retained by a condition on it.
-/

namespace Chancela

abbrev Keyed (κ α : Type*) := κ → Option α

namespace Keyed

variable {κ α : Type*} {entries : Keyed κ α} {key other : κ} {entry found : α}

def empty : Keyed κ α := fun _ => none

def retain (entries : Keyed κ α) (keep : κ → α → Bool) : Keyed κ α :=
  fun key => (entries key).filter (keep key)

@[simp] theorem empty_apply : (empty : Keyed κ α) key = none := rfl

theorem retain_eq_some_iff {keep : κ → α → Bool} :
    entries.retain keep key = some entry ↔ entries key = some entry ∧ keep key entry = true :=
  Option.filter_eq_some_iff

theorem eq_some_of_retain {keep : κ → α → Bool} (kept : entries.retain keep key = some entry) :
    entries key = some entry :=
  (retain_eq_some_iff.mp kept).1

variable [DecidableEq κ]

/-- An entry put under its key, in place of what was there. -/
def insert (entries : Keyed κ α) (key : κ) (entry : α) : Keyed κ α :=
  Function.update entries key (some entry)

def erase (entries : Keyed κ α) (key : κ) : Keyed κ α := Function.update entries key none

@[simp] theorem insert_self : entries.insert key entry key = some entry :=
  Function.update_self ..

theorem insert_of_ne (apart : other ≠ key) : entries.insert key entry other = entries other :=
  Function.update_of_ne apart ..

theorem insert_eq_some_iff :
    entries.insert key entry other = some found ↔
      other = key ∧ entry = found ∨ other ≠ key ∧ entries other = some found := by
  by_cases same : other = key
  · subst same
    simp only [insert_self, Option.some.injEq, true_and, ne_eq, not_true_eq_false, false_and,
      or_false]
  · simp only [insert_of_ne same, same, false_and, ne_eq, not_false_eq_true, true_and, false_or]

@[simp] theorem erase_self : entries.erase key key = none := Function.update_self ..

theorem erase_of_ne (apart : other ≠ key) : entries.erase key other = entries other :=
  Function.update_of_ne apart ..

theorem erase_eq_some_iff :
    entries.erase key other = some found ↔ other ≠ key ∧ entries other = some found := by
  by_cases same : other = key
  · subst same
    simp only [erase_self, reduceCtorEq, ne_eq, not_true_eq_false, false_and]
  · simp only [erase_of_ne same, ne_eq, same, not_false_eq_true, true_and]

end Keyed

end Chancela
