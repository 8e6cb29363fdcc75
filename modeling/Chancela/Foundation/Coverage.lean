import Mathlib.Data.List.Basic
import Mathlib.Order.Bounds.Basic
import Chancela.Foundation.Run

/-! # Spans that carry a reach along a line

A reach stands at a position; a span that begins at it or earlier carries it to the
span's end, where that is further. Spans none of which begins beyond the reach it finds
carry it to the end of the stretch that they cover from where it stood, in whatever
order they come (`Chancela.Span.isLeast_foldl_carry`).
-/

namespace Chancela

/-- The positions from `start` up to `stop`. -/
structure Span where
  start : Nat
  stop : Nat

namespace Span

def carry (reach : Nat) (span : Span) : Nat :=
  if span.start ≤ reach then max reach span.stop else reach

/-- The span is empty, or begins at the reach or earlier. -/
def Joins (reach : Nat) (span : Span) : Prop :=
  span.stop ≤ span.start ∨ span.start ≤ reach

instance (reach : Nat) (span : Span) : Decidable (Joins reach span) :=
  inferInstanceAs (Decidable (_ ∨ _))

def Covered (spans : List Span) (position : Nat) : Prop :=
  ∃ span ∈ spans, span.start ≤ position ∧ position < span.stop

/-- The stretch covered from `start` ends at `stop`. -/
def Stretch (spans : List Span) (start stop : Nat) : Prop :=
  IsLeast {position | start ≤ position ∧ ¬Covered spans position} stop

theorem covered_cons {span : Span} {rest : List Span} {position : Nat} :
    Covered (span :: rest) position ↔
      span.start ≤ position ∧ position < span.stop ∨ Covered rest position :=
  List.exists_mem_cons_iff ..

theorem le_carry (reach : Nat) (span : Span) : reach ≤ carry reach span := by
  rw [carry]
  split
  · exact le_max_left reach span.stop
  · exact le_rfl

theorem not_covered_cons_iff {span : Span} {rest : List Span} {reach : Nat}
    (joins : Joins reach span) (position : Nat) :
    reach ≤ position ∧ ¬Covered (span :: rest) position ↔
      carry reach span ≤ position ∧ ¬Covered rest position := by
  have outside : reach ≤ position ∧ ¬(span.start ≤ position ∧ position < span.stop) ↔
      carry reach span ≤ position := by
    rw [carry]
    rcases joins with empty | reaches
    · split <;> omega
    · rw [if_pos reaches]
      omega
  rw [covered_cons, not_or, ← and_assoc, outside]

/-- **The order does not matter**: spans that join the reach they find carry it to the
end of the stretch they cover. -/
theorem isLeast_foldl_carry {reach : Nat} {spans : List Span}
    (joined : Run.Admissible carry Joins reach spans) :
    Stretch spans reach (spans.foldl carry reach) := by
  induction spans generalizing reach with
  | nil => exact ⟨⟨le_rfl, fun ⟨_, absent, _⟩ => List.not_mem_nil absent⟩, fun _ beyond => beyond.1⟩
  | cons span rest ih =>
      have same : {position | reach ≤ position ∧ ¬Covered (span :: rest) position} =
          {position | carry reach span ≤ position ∧ ¬Covered rest position} :=
        Set.ext fun position => not_covered_cons_iff joined.1 position
      rw [Stretch, same]
      exact ih joined.2

end Span

end Chancela
