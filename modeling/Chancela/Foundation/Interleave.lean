import Chancela.Foundation.Run

/-! # Interleaved sections

Parties that share a state and take turns: a turn runs the next section of one party, which
reads and writes the shared state and the party's own progress at once, and leaves the
progress of every other party alone. What holds across every interleaving is shown by a
*discipline*: a condition on the shared state, one on each party's progress against it, and
one on the progress of any two parties. A discipline is kept by every run if each section
keeps it for the party that runs it, and does not spoil it for the others
(`Chancela.Interleave.Discipline.KeptBy.holds`).
-/

namespace Chancela.Interleave

variable {σ ι π χ : Type*}

/-- The shared state, and how far each party has got. -/
@[ext]
structure World (σ ι π : Type*) where
  shared : σ
  progress : ι → π

variable [DecidableEq ι] {section_ : ι → χ → σ → π → σ × π}

/-- The next section of one party, under what the surroundings bring. -/
def turn (section_ : ι → χ → σ → π → σ × π) (world : World σ ι π) (move : ι × χ) :
    World σ ι π where
  shared := (section_ move.1 move.2 world.shared (world.progress move.1)).1
  progress := Function.update world.progress move.1
    (section_ move.1 move.2 world.shared (world.progress move.1)).2

@[simp] theorem progress_turn_self (world : World σ ι π) (move : ι × χ) :
    (turn section_ world move).progress move.1 =
      (section_ move.1 move.2 world.shared (world.progress move.1)).2 :=
  Function.update_self ..

theorem progress_turn_of_ne (world : World σ ι π) (move : ι × χ) {other : ι}
    (apart : other ≠ move.1) : (turn section_ world move).progress other = world.progress other :=
  Function.update_of_ne apart ..

/-- What holds between turns. -/
structure Discipline (σ ι π : Type*) where
  /-- Of the shared state. -/
  common : σ → Prop
  /-- Of a party's progress, against the shared state. -/
  mine : ι → σ → π → Prop
  /-- Of the progress of any two parties. -/
  apart : π → π → Prop

namespace Discipline

variable (discipline : Discipline σ ι π)

structure Holds (world : World σ ι π) : Prop where
  common : discipline.common world.shared
  mine : ∀ party, discipline.mine party world.shared (world.progress party)
  apart : ∀ first second, first ≠ second →
    discipline.apart (world.progress first) (world.progress second)

/-- What each section owes under the condition its turn meets: to its own party, and to
every other. -/
structure KeptBy (section_ : ι → χ → σ → π → σ × π) (admits : World σ ι π → ι × χ → Prop) :
    Prop where
  symm : ∀ {first second}, discipline.apart first second → discipline.apart second first
  common : ∀ world move, discipline.Holds world → admits world move →
    discipline.common (section_ move.1 move.2 world.shared (world.progress move.1)).1
  mine : ∀ world move, discipline.Holds world → admits world move →
    discipline.mine move.1 (section_ move.1 move.2 world.shared (world.progress move.1)).1
      (section_ move.1 move.2 world.shared (world.progress move.1)).2
  others : ∀ world move, discipline.Holds world → admits world move →
    ∀ other, other ≠ move.1 →
      discipline.mine other (section_ move.1 move.2 world.shared (world.progress move.1)).1
        (world.progress other)
  apart : ∀ world move, discipline.Holds world → admits world move →
    ∀ other, other ≠ move.1 →
      discipline.apart (section_ move.1 move.2 world.shared (world.progress move.1)).2
        (world.progress other)

variable {discipline} {admits : World σ ι π → ι × χ → Prop}

theorem KeptBy.holds_turn (kept : discipline.KeptBy section_ admits) {world : World σ ι π}
    {move : ι × χ} (holds : discipline.Holds world) (admitted : admits world move) :
    discipline.Holds (turn section_ world move) where
  common := kept.common world move holds admitted
  mine party := by
    by_cases same : party = move.1
    · subst same
      rw [progress_turn_self]
      exact kept.mine world move holds admitted
    · rw [progress_turn_of_ne world move same]
      exact kept.others world move holds admitted party same
  apart first second different := by
    by_cases moved : first = move.1
    · subst moved
      rw [progress_turn_self, progress_turn_of_ne world move different.symm]
      exact kept.apart world move holds admitted second different.symm
    · rw [progress_turn_of_ne world move moved]
      by_cases moves : second = move.1
      · subst moves
        rw [progress_turn_self]
        exact kept.symm (kept.apart world move holds admitted first moved)
      · rw [progress_turn_of_ne world move moves]
        exact holds.apart first second different

/-- **A kept discipline holds in every world an admissible run passes through.** -/
theorem KeptBy.holds (kept : discipline.KeptBy section_ admits) {start : World σ ι π}
    (initial : discipline.Holds start) {moves : List (ι × χ)}
    (admissible : Run.Admissible (turn section_) admits start moves) :
    ∀ world ∈ Run.states (turn section_) start moves, discipline.Holds world :=
  Run.forall_mem_states (fun _ _ => kept.holds_turn) initial admissible

theorem KeptBy.holds_always (kept : discipline.KeptBy section_ fun _ _ => True)
    {start : World σ ι π} (initial : discipline.Holds start) (moves : List (ι × χ)) :
    ∀ world ∈ Run.states (turn section_) start moves, discipline.Holds world :=
  Run.forall_mem_states_of_kept (fun _ _ holds => kept.holds_turn holds trivial) initial moves

end Discipline

end Chancela.Interleave
