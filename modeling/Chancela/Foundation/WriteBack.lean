import Mathlib.Data.Option.Basic
import Mathlib.Logic.Function.Basic

/-! # Copies written back

Keyed cells in memory beside a store of the same cells. Parties change a cell, keep a copy of
it, and write the copy to the store later; nothing orders these writes. Which copies and which
stored cells are *fresh*, that is, no change of the cell has come since they were taken, is read
off the order of the steps alone. Fresh copies and fresh stored cells are the cells in memory
(`Chancela.WriteBack.Consistent.step`).
-/

namespace Chancela.WriteBack

variable {κ ι α : Type*}

/-- What a step of a party does to the cells, the store and the copy it holds. -/
inductive Event (κ : Type*) where
  | changed (key : κ)
  | touched (key : κ)
  | copied (key : κ)
  | saved (key : κ)
  | savedAll
  | quiet

/-- Of one cell: whose copies are fresh, and whether the store is. -/
structure Freshness (ι : Type*) where
  copy : ι → Bool
  row : Bool

/-- A step as its event says: the cells and the store before and after, and the copy the party
holds before and after. -/
inductive Step [DecidableEq κ] (memory store memory' store' : κ → Option α)
    (held held' : Option (κ × α)) : Event κ → Prop where
  | changed {key : κ} {value : α} (written : memory' = Function.update memory key (some value))
      (unsaved : store' = store) (copied : held' = some (key, value)) :
      Step memory store memory' store' held held' (.changed key)
  | touched {key : κ} (others : ∀ other, other ≠ key → memory' other = memory other)
      (unsaved : store' = store) (released : held' = none) :
      Step memory store memory' store' held held' (.touched key)
  | copied {key : κ} {value : α} (unchanged : memory' = memory) (unsaved : store' = store)
      (present : memory key = some value) (copied : held' = some (key, value)) :
      Step memory store memory' store' held held' (.copied key)
  | saved {key : κ} {value : α} (unchanged : memory' = memory) (holding : held = some (key, value))
      (written : store' = Function.update store key (some value))
      (kept : held' = held ∨ held' = none) :
      Step memory store memory' store' held held' (.saved key)
  | savedAll (unchanged : memory' = memory) (written : store' = memory)
      (kept : held' = held ∨ held' = none) : Step memory store memory' store' held held' .savedAll
  | quiet (unchanged : memory' = memory) (unsaved : store' = store)
      (kept : held' = held ∨ held' = none) : Step memory store memory' store' held held' .quiet

/-- Nothing is in flight: every stored cell is fresh, and no copy. -/
def settled : κ → Freshness ι := fun _ => ⟨fun _ => false, true⟩

variable [DecidableEq κ] [DecidableEq ι]

def after (party : ι) (fresh : κ → Freshness ι) : Event κ → κ → Freshness ι
  | .changed key => Function.update fresh key ⟨fun other => decide (other = party), false⟩
  | .touched key => Function.update fresh key ⟨fun _ => false, false⟩
  | .copied key =>
      Function.update fresh key ⟨Function.update (fresh key).copy party true, (fresh key).row⟩
  | .saved key => Function.update fresh key ⟨(fresh key).copy, (fresh key).copy party⟩
  | .savedAll => fun key => ⟨(fresh key).copy, true⟩
  | .quiet => fresh

/-- What is fresh is what memory holds. -/
structure Consistent (memory store : κ → Option α) (held : ι → Option (κ × α))
    (fresh : κ → Freshness ι) : Prop where
  row : ∀ key, (fresh key).row = true → store key = memory key
  copy : ∀ party key value, held party = some (key, value) → (fresh key).copy party = true →
    memory key = some value

omit [DecidableEq κ] [DecidableEq ι] in
theorem consistent_settled {memory store : κ → Option α} (same : ∀ key, store key = memory key)
    (held : ι → Option (κ × α)) : Consistent memory store held settled where
  row key _ := same key
  copy _ _ _ _ flag := Bool.noConfusion flag

variable {memory store memory' store' : κ → Option α} {held : ι → Option (κ × α)}
  {held' : Option (κ × α)} {fresh : κ → Freshness ι} {party : ι} {event : Event κ}

omit [DecidableEq κ] in
theorem Consistent.copy_of_kept (consistent : Consistent memory store held fresh)
    (kept : held' = held party ∨ held' = none) {other : ι} {key : κ} {value : α}
    (holding : Function.update held party held' other = some (key, value))
    (flag : (fresh key).copy other = true) : memory key = some value := by
  by_cases same : other = party
  · subst same
    rw [Function.update_self] at holding
    rcases kept with kept | released
    · exact consistent.copy other key value (kept.symm.trans holding) flag
    · rw [released] at holding
      cases holding
  · rw [Function.update_of_ne same] at holding
    exact consistent.copy other key value holding flag

/-- **A step keeps what is fresh right.** -/
theorem Consistent.step (consistent : Consistent memory store held fresh)
    (step : Step memory store memory' store' (held party) held' event) :
    Consistent memory' store' (Function.update held party held') (after party fresh event) := by
  cases step with
  | @changed key value written unsaved copied =>
      subst written unsaved copied
      refine ⟨fun other flag => ?_, fun owner other found holding flag => ?_⟩
      · by_cases same : other = key
        · rw [same, after, Function.update_self] at flag
          cases flag
        · rw [after, Function.update_of_ne same] at flag
          rw [Function.update_of_ne same]
          exact consistent.row other flag
      · by_cases same : other = key
        · subst same
          rw [after, Function.update_self] at flag
          obtain rfl : owner = party := of_decide_eq_true flag
          rw [Function.update_self] at holding
          obtain ⟨-, rfl⟩ := Prod.mk.inj (Option.some.inj holding)
          exact Function.update_self ..
        · rw [after, Function.update_of_ne same] at flag
          rw [Function.update_of_ne same]
          by_cases mine : owner = party
          · subst mine
            rw [Function.update_self] at holding
            exact (same (Prod.mk.inj (Option.some.inj holding)).1.symm).elim
          · rw [Function.update_of_ne mine] at holding
            exact consistent.copy owner other found holding flag
  | @touched key others unsaved released =>
      subst unsaved released
      refine ⟨fun other flag => ?_, fun owner other found holding flag => ?_⟩
      all_goals
        by_cases same : other = key
        · rw [same, after, Function.update_self] at flag
          cases flag
        rw [after, Function.update_of_ne same] at flag
        rw [others other same]
      · exact consistent.row other flag
      · exact consistent.copy_of_kept (.inr rfl) holding flag
  | @copied key value unchanged unsaved present copied =>
      subst unchanged unsaved copied
      refine ⟨fun other flag => ?_, fun owner other found holding flag => ?_⟩
      · by_cases same : other = key
        · subst same
          rw [after, Function.update_self] at flag
          exact consistent.row other flag
        · rw [after, Function.update_of_ne same] at flag
          exact consistent.row other flag
      · by_cases mine : owner = party
        · subst mine
          rw [Function.update_self] at holding
          obtain ⟨rfl, rfl⟩ := Prod.mk.inj (Option.some.inj holding)
          exact present
        · rw [Function.update_of_ne mine] at holding
          apply consistent.copy owner other found holding
          by_cases same : other = key
          · subst same
            simpa only [after, Function.update_self, Function.update_of_ne mine] using flag
          · rwa [after, Function.update_of_ne same] at flag
  | @saved key value unchanged holding written kept =>
      subst unchanged written
      refine ⟨fun other flag => ?_, fun owner other found holds flag => ?_⟩
      · by_cases same : other = key
        · subst same
          rw [after, Function.update_self] at flag
          rw [Function.update_self]
          exact (consistent.copy party other value holding flag).symm
        · rw [after, Function.update_of_ne same] at flag
          rw [Function.update_of_ne same]
          exact consistent.row other flag
      · apply consistent.copy_of_kept kept holds
        by_cases same : other = key
        · subst same
          rwa [after, Function.update_self] at flag
        · rwa [after, Function.update_of_ne same] at flag
  | savedAll unchanged written kept =>
      subst unchanged written
      exact ⟨fun _ _ => rfl, fun owner other found holds flag =>
        consistent.copy_of_kept kept holds flag⟩
  | quiet unchanged unsaved kept =>
      subst unchanged unsaved
      exact ⟨consistent.row, fun owner other found holds flag =>
        consistent.copy_of_kept kept holds flag⟩

end Chancela.WriteBack
