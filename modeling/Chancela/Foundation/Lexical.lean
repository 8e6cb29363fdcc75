import Mathlib.Data.List.DropRight
import Mathlib.Data.List.Lex
import Mathlib.Order.Lattice

/-! # Texts in dictionary order

Texts of one width before other texts, texts without the least letters at their end, and texts
closed by a letter above all of theirs. Closing texts so keeps their order, but for a text and
an extension of it, whose order it reverses.
-/

namespace Chancela.Lexical

variable {α : Type*} {first second rest rest' : List α} {least stop letter : α}

def Clash (first second : List α) : Prop :=
  first ≠ second ∧ (first <+: second ∨ second <+: first)

instance decidableClash [DecidableEq α] (first second : List α) : Decidable (Clash first second) :=
  inferInstanceAs (Decidable (_ ∧ _))

theorem clash_comm : Clash first second ↔ Clash second first := by
  unfold Clash
  rw [ne_comm, or_comm]

theorem clash_cons_iff : Clash (letter :: first) (letter :: second) ↔ Clash first second := by
  unfold Clash
  rw [List.cons_prefix_cons, List.cons_prefix_cons]
  simp

variable [LinearOrder α]

theorem append_lt_append_iff (lengths : first.length = second.length) :
    first ++ rest < second ++ rest' ↔ first < second ∨ first = second ∧ rest < rest' := by
  induction first generalizing second with
  | nil =>
      obtain rfl := List.length_eq_zero_iff.mp lengths.symm
      simp
  | cons letter first ih =>
      cases second with
      | nil => cases lengths
      | cons letter' second =>
          rw [List.cons_append, List.cons_append, List.cons_lt_cons_iff, List.cons_lt_cons_iff,
            ih (Nat.succ.inj lengths), List.cons.injEq]
          tauto

/-- **Closed texts compare as the texts do**, unless one of them extends the other. -/
theorem concat_lt_concat_iff (apart : ¬Clash first second) :
    first ++ [stop] < second ++ [stop] ↔ first < second := by
  induction first generalizing second with
  | nil =>
      cases second with
      | nil => simp
      | cons letter second => exact absurd ⟨nofun, .inl List.nil_prefix⟩ apart
  | cons letter first ih =>
      cases second with
      | nil => exact absurd ⟨nofun, .inr List.nil_prefix⟩ apart
      | cons letter' second =>
          rw [List.cons_append, List.cons_append, List.cons_lt_cons_iff, List.cons_lt_cons_iff]
          by_cases same : letter = letter'
          · rw [same, clash_cons_iff] at apart
            rw [ih apart]
          · simp only [same, false_and]

/-- **A closed text lies above its closed extensions.** -/
theorem concat_lt_concat_of_clash (below : ∀ letter ∈ second, letter < stop)
    (extends_ : first <+: second) (proper : first ≠ second) :
    second ++ [stop] < first ++ [stop] := by
  obtain ⟨more, rfl⟩ := extends_
  cases more with
  | nil => exact absurd (List.append_nil first).symm proper
  | cons letter more =>
      rw [List.append_assoc, append_lt_append_iff rfl]
      refine .inr ⟨rfl, List.cons_lt_cons_iff.mpr (.inl (below letter ?_))⟩
      exact List.mem_append_right _ List.mem_cons_self

theorem lt_of_extends (extends_ : first <+: second) (proper : first ≠ second) : first < second := by
  obtain ⟨more, rfl⟩ := extends_
  cases more with
  | nil => exact absurd (List.append_nil first).symm proper
  | cons letter more =>
      nth_rewrite 1 [← List.append_nil first]
      exact (append_lt_append_iff rfl).mpr (.inr ⟨rfl, List.nil_lt_cons letter more⟩)

theorem concat_lt_concat_iff_of_clash (below : ∀ letter ∈ first ++ second, letter < stop)
    (clash : Clash first second) : first ++ [stop] < second ++ [stop] ↔ second < first := by
  obtain ⟨proper, extension | extension⟩ := clash
  · have above := concat_lt_concat_of_clash
      (fun letter member => below letter (List.mem_append_right _ member)) extension proper
    exact iff_of_false above.not_gt (lt_of_extends extension proper).not_gt
  · have under := concat_lt_concat_of_clash
      (fun letter member => below letter (List.mem_append_left _ member)) extension proper.symm
    exact iff_of_true under (lt_of_extends extension proper.symm)

def trimmed (least : α) (text : List α) : List α :=
  (text.reverse.dropWhile (· == least)).reverse

theorem trimmed_cons : trimmed least (letter :: rest) =
    if trimmed least rest = [] ∧ letter = least then [] else letter :: trimmed least rest := by
  unfold trimmed
  rw [List.reverse_cons, List.dropWhile_append]
  by_cases empty : rest.reverse.dropWhile (· == least) = []
  · by_cases same : letter = least
    · simp [empty, same]
    · simp [empty, same]
  · rw [if_neg (fun isEmpty => empty (List.isEmpty_iff.mp isEmpty)),
      if_neg (fun both => empty (List.reverse_eq_nil_iff.mp both.1)), List.reverse_append]
    rfl

/-- **Trimming keeps the order** of texts of one width. -/
theorem trimmed_lt_trimmed (lengths : first.length = second.length)
    (above : ∀ letter ∈ first, least ≤ letter) (below : first < second) :
    trimmed least first < trimmed least second := by
  induction first generalizing second with
  | nil =>
      obtain rfl := List.length_eq_zero_iff.mp lengths.symm
      exact absurd below (List.lt_irrefl _)
  | cons letter first ih =>
      cases second with
      | nil => cases lengths
      | cons letter' second =>
          have least_ := above letter List.mem_cons_self
          rw [trimmed_cons, trimmed_cons]
          rcases List.cons_lt_cons_iff.mp below with smaller | ⟨rfl, later⟩
          · have kept := least_.trans_lt smaller
            rw [if_neg (fun both : _ ∧ letter' = least => kept.ne' both.2)]
            split
            · exact List.nil_lt_cons _ _
            · exact List.cons_lt_cons_iff.mpr (.inl smaller)
          · have rests := ih (Nat.succ.inj lengths)
              (fun other member => above other (List.mem_cons_of_mem _ member)) later
            have nonempty : trimmed least second ≠ [] := fun empty =>
              List.not_lt_nil _ (empty ▸ rests)
            rw [if_neg (fun both : trimmed least second = [] ∧ _ => nonempty both.1)]
            split
            · exact List.nil_lt_cons _ _
            · exact List.cons_lt_cons_iff.mpr (.inr ⟨rfl, rests⟩)

end Chancela.Lexical
