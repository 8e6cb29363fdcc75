import Mathlib.Logic.Basic

/-! # Outcomes of fallible code

When a sequence of checks in `Except` succeeds. The lemmas turn the guards of a
modelled function into the facts they establish, without unfolding the monad.
-/

namespace Chancela.Outcome

universe u

variable {ε : Type*} {α β : Type u}

theorem bind_eq_ok_iff {first : Except ε α} {next : α → Except ε β} {result : β} :
    (first >>= next) = .ok result ↔ ∃ value, first = .ok value ∧ next value = .ok result := by
  cases first with
  | error fault => simp only [bind, Except.bind, reduceCtorEq, false_and, exists_false]
  | ok value =>
      simp only [bind, Except.bind, Except.ok.injEq, exists_eq_left']

theorem ite_error_eq_ok_iff {condition : Prop} [Decidable condition] {fault : ε}
    {other : Except ε α} {result : α} :
    (if condition then .error fault else other) = .ok result ↔
      ¬condition ∧ other = .ok result := by
  by_cases holds : condition <;> simp [holds]

/-- An early return of an error: `if condition { return Err(fault); }`. -/
def rejectIf (condition : Prop) [Decidable condition] (fault : ε) : Except ε PUnit :=
  if condition then .error fault else .ok ⟨⟩

@[simp] theorem rejectIf_eq_ok_iff {condition : Prop} [Decidable condition] {fault : ε} :
    rejectIf condition fault = .ok ⟨⟩ ↔ ¬condition := by
  by_cases holds : condition <;> simp [rejectIf, holds]

theorem check_bind_eq_ok_iff {check : Except ε PUnit} {next : PUnit → Except ε β} {result : β} :
    (check >>= next) = .ok result ↔ check = .ok ⟨⟩ ∧ next ⟨⟩ = .ok result := by
  rw [bind_eq_ok_iff]
  exact ⟨fun ⟨⟨⟩, passed⟩ => passed, fun passed => ⟨⟨⟩, passed⟩⟩

/-- A check of every item, up to the first that fails it. -/
def checkAll (check : α → Except ε PUnit) : List α → Except ε PUnit
  | [] => .ok ⟨⟩
  | item :: rest => do
      check item
      checkAll check rest

theorem checkAll_eq_ok_iff {check : α → Except ε PUnit} {items : List α} :
    checkAll check items = .ok ⟨⟩ ↔ ∀ item ∈ items, check item = .ok ⟨⟩ := by
  induction items with
  | nil => simp [checkAll]
  | cons item rest ih => rw [checkAll, check_bind_eq_ok_iff, ih, List.forall_mem_cons]

def fault? : Except ε α → Option ε
  | .error fault => some fault
  | .ok _ => none

theorem fault?_eq_none_iff {outcome : Except ε α} :
    fault? outcome = none ↔ ∃ value, outcome = .ok value := by
  cases outcome with
  | error fault => simp only [fault?, reduceCtorEq, exists_false]
  | ok value => simp only [fault?, Except.ok.injEq, exists_eq']

/-! ### Which faults can occur -/

def FaultsIn (kind : ε → Prop) (outcome : Except ε α) : Prop :=
  ∀ fault, outcome = .error fault → kind fault

variable {kind : ε → Prop}

theorem FaultsIn.ok (value : α) : FaultsIn kind (.ok value : Except ε α) := by
  intro fault failed
  cases failed

theorem FaultsIn.error {fault : ε} (holds : kind fault) :
    FaultsIn kind (.error fault : Except ε α) := by
  intro other failed
  cases failed
  exact holds

theorem FaultsIn.bind {first : Except ε α} {next : α → Except ε β} (start : FaultsIn kind first)
    (rest : ∀ value, FaultsIn kind (next value)) : FaultsIn kind (first >>= next) := by
  cases first with
  | error fault => exact .error (start fault rfl)
  | ok value => exact rest value

theorem FaultsIn.rejectIf {condition : Prop} [Decidable condition] {fault : ε}
    (holds : kind fault) : FaultsIn kind (rejectIf condition fault) := by
  unfold Outcome.rejectIf
  split
  · exact .error holds
  · exact .ok _

/-! ### Which values can result -/

/-- Every value an outcome succeeds with is of some kind. -/
def ResultsIn (kind : α → Prop) (outcome : Except ε α) : Prop :=
  ∀ value, outcome = .ok value → kind value

theorem ResultsIn.ok {kind : α → Prop} {value : α} (holds : kind value) :
    ResultsIn kind (.ok value : Except ε α) := by
  intro other succeeded
  rw [← Except.ok.inj succeeded]
  exact holds

theorem ResultsIn.error {kind : α → Prop} (fault : ε) :
    ResultsIn kind (.error fault : Except ε α) := by
  intro value succeeded
  cases succeeded

theorem ResultsIn.bind {kind : β → Prop} {first : Except ε α} {next : α → Except ε β}
    (rest : ∀ value, first = .ok value → ResultsIn kind (next value)) :
    ResultsIn kind (first >>= next) := by
  intro result succeeded
  obtain ⟨value, reached, after⟩ := bind_eq_ok_iff.mp succeeded
  exact rest value reached result after

end Chancela.Outcome
