import Mathlib.Data.Option.Basic

/-! # Walks along a parent relation

A walk starts at an element and asks for the parent until it meets its goal, there is
no parent, or its steps are spent. Reaching within a bound composes exactly when no
element is met for the first time with the step after the last
(`Chancela.Walk.reaches_of_ancestor`); where parents descend in some rank below the
bound, that never happens (`Chancela.Walk.rank_add_le_of_ancestor`).
-/

namespace Chancela.Walk

variable {α : Type*} {parent : α → Option α} {start middle goal : α}

/-- The element some parents above another, if the chain is long enough. -/
def ancestor (parent : α → Option α) : Nat → α → Option α
  | 0, start => some start
  | distance + 1, start => (parent start).bind (ancestor parent distance)

/-- Does a walk of at most `steps` looks meet the goal? -/
def reaches [DecidableEq α] (parent : α → Option α) (goal : α) : Nat → Option α → Bool
  | 0, _ => false
  | _ + 1, none => false
  | steps + 1, some current =>
      if current = goal then true else reaches parent goal steps (parent current)

theorem ancestor_add (near far : Nat) :
    ancestor parent (near + far) start =
    (ancestor parent near start).bind (ancestor parent far) := by
  induction near generalizing start with
  | zero => simp only [Nat.zero_add, ancestor, Option.bind_some]
  | succ near ih =>
      rw [Nat.add_right_comm, ancestor, ancestor, Option.bind_assoc]
      exact Option.bind_congr fun above _ => ih

theorem ancestor_trans {near far : Nat} (lower : ancestor parent near start = some middle)
    (upper : ancestor parent far middle = some goal) :
    ancestor parent (near + far) start = some goal := by
  rw [ancestor_add, lower, Option.bind_some, upper]

theorem exists_ancestor_of_add {near far : Nat}
    (above : ancestor parent (near + far) start = some goal) :
    ∃ middle, ancestor parent near start = some middle ∧
      ancestor parent far middle = some goal := by
  rw [ancestor_add] at above
  exact Option.bind_eq_some_iff.mp above

theorem reaches_iff [DecidableEq α] {steps : Nat} :
    reaches parent goal steps (some start) = true ↔
      ∃ distance < steps, ancestor parent distance start = some goal := by
  induction steps generalizing start with
  | zero => simp only [reaches, Bool.false_eq_true, Nat.not_lt_zero, false_and, exists_false]
  | succ steps ih =>
      rw [reaches]
      by_cases here : start = goal
      · simp only [here, ↓reduceIte, true_iff]
        exact ⟨0, Nat.succ_pos steps, rfl⟩
      rw [if_neg here]
      cases next : parent start with
      | none =>
          have spent : reaches parent goal steps none = false := by cases steps <;> rfl
          rw [spent]
          refine ⟨fun met => (Bool.false_ne_true met).elim, ?_⟩
          rintro ⟨distance, -, above⟩
          cases distance with
          | zero => exact (here (Option.some.inj above)).elim
          | succ distance => simp only [ancestor, next, Option.bind_none, reduceCtorEq] at above
      | some above =>
          rw [ih]
          constructor
          · rintro ⟨distance, inside, met⟩
            refine ⟨distance + 1, Nat.succ_lt_succ inside, ?_⟩
            rw [ancestor, next, Option.bind_some, met]
          · rintro ⟨distance, inside, met⟩
            cases distance with
            | zero => exact (here (Option.some.inj met)).elim
            | succ distance =>
                rw [ancestor, next, Option.bind_some] at met
                exact ⟨distance, Nat.lt_of_succ_lt_succ inside, met⟩

theorem reaches_of_ancestor [DecidableEq α] {steps : Nat}
    (nearer : ∀ low, ancestor parent steps low = some goal →
      ∃ distance < steps, ancestor parent distance low = some goal)
    {distance : Nat} (above : ancestor parent distance start = some goal) :
    reaches parent goal steps (some start) = true := by
  rw [reaches_iff]
  -- on the distance: a far ancestor is brought one round nearer
  induction distance using Nat.strongRecOn with
  | ind distance ih =>
      by_cases inside : distance < steps
      · exact ⟨distance, inside, above⟩
      obtain ⟨rest, split⟩ := Nat.exists_eq_add_of_le' (Nat.le_of_not_lt inside)
      obtain ⟨low, below, full⟩ := exists_ancestor_of_add (split ▸ above)
      obtain ⟨less, shorter, met⟩ := nearer low full
      exact ih (rest + less) (by omega) (ancestor_trans below met)

theorem rank_add_le_of_ancestor {rank : α → Nat}
    (descends : ∀ low above, parent low = some above → rank above < rank low) {distance : Nat}
    (above : ancestor parent distance start = some goal) : rank goal + distance ≤ rank start := by
  induction distance generalizing start with
  | zero => rw [Option.some.inj above]; omega
  | succ distance ih =>
      rw [ancestor] at above
      obtain ⟨next, stepped, rest⟩ := Option.bind_eq_some_iff.mp above
      have shorter := ih rest
      have descended := descends start next stepped
      omega

end Chancela.Walk
