import Mathlib.Data.List.Basic

/-! # Runs of a state machine

A machine is a total step function; a call it refuses leaves the state alone. The
states of a run are listed with the first one, and a run is *admissible* when every
call meets a condition on the state it finds. An invariant that admissible calls
keep holds in every state an admissible run passes through
(`Chancela.Run.forall_mem_states`).
-/

namespace Chancela.Run

variable {σ α : Type*} {step : σ → α → σ}

/-- The states a run passes through, the first one included. -/
def states (step : σ → α → σ) (start : σ) : List α → List σ
  | [] => [start]
  | call :: rest => start :: states step (step start call) rest

/-- Every call of the run meets the condition in the state it finds. -/
def Admissible (step : σ → α → σ) (admits : σ → α → Prop) (start : σ) : List α → Prop
  | [] => True
  | call :: rest => admits start call ∧ Admissible step admits (step start call) rest

instance decidableAdmissible {admits : σ → α → Prop}
    [decidable : ∀ state call, Decidable (admits state call)] :
    ∀ (start : σ) (calls : List α), Decidable (Admissible step admits start calls)
  | _, [] => .isTrue trivial
  | start, call :: rest =>
      @instDecidableAnd _ _ (decidable start call) (decidableAdmissible (step start call) rest)

theorem admissible_congr {admits allows : σ → α → Prop}
    (same : ∀ state call, admits state call ↔ allows state call) (start : σ) (calls : List α) :
    Admissible step admits start calls ↔ Admissible step allows start calls := by
  induction calls generalizing start with
  | nil => exact Iff.rfl
  | cons call rest ih => exact and_congr (same start call) (ih (step start call))

variable {admits : σ → α → Prop}

theorem Admissible.and_forall_mem {allowed : α → Prop} {start : σ} {calls : List α}
    (admissible : Admissible step admits start calls) (every : ∀ call ∈ calls, allowed call) :
    Admissible step (fun state call => admits state call ∧ allowed call) start calls := by
  induction calls generalizing start with
  | nil => exact trivial
  | cons call rest ih =>
      refine ⟨⟨admissible.1, every call List.mem_cons_self⟩, ?_⟩
      exact ih admissible.2 fun later member => every later (List.mem_cons_of_mem call member)

theorem start_mem_states (start : σ) (calls : List α) : start ∈ states step start calls := by
  cases calls with
  | nil => exact List.mem_singleton_self start
  | cons call rest => exact List.mem_cons_self

theorem foldl_mem_states (start : σ) (calls : List α) :
    calls.foldl step start ∈ states step start calls := by
  induction calls generalizing start with
  | nil => exact List.mem_singleton_self start
  | cons call rest ih => exact List.mem_cons_of_mem _ (ih (step start call))

theorem forall_mem_states_ahead {invariant : σ → List α → Prop}
    (kept : ∀ state call rest, invariant state (call :: rest) → admits state call →
      invariant (step state call) rest) {start : σ} {calls : List α}
    (initial : invariant start calls) (admissible : Admissible step admits start calls) :
    ∀ state ∈ states step start calls, ∃ ahead, invariant state ahead := by
  induction calls generalizing start with
  | nil =>
      intro state member
      rw [List.mem_singleton.mp member]
      exact ⟨[], initial⟩
  | cons call rest ih =>
      intro state member
      rcases List.mem_cons.mp member with rfl | later
      · exact ⟨call :: rest, initial⟩
      · exact ih (kept start call rest initial admissible.1) admissible.2 state later

variable {invariant : σ → Prop}

/-- **Invariants of admissible runs.** -/
theorem forall_mem_states
    (kept : ∀ state call, invariant state → admits state call → invariant (step state call))
    {start : σ} (initial : invariant start) {calls : List α}
    (admissible : Admissible step admits start calls) :
    ∀ state ∈ states step start calls, invariant state := by
  intro state member
  obtain ⟨-, holds⟩ := @forall_mem_states_ahead σ α step admits (fun state _ => invariant state)
    (fun state call _ => kept state call) start calls initial admissible state member
  exact holds

theorem pairwise_states_of_admissible {related : σ → σ → Prop} (refl : ∀ state, related state state)
    (trans : ∀ {first second third}, related first second → related second third →
      related first third)
    (steps : ∀ state call, admits state call → related state (step state call)) {start : σ}
    {calls : List α} (admissible : Admissible step admits start calls) :
    (states step start calls).Pairwise related := by
  have later : ∀ start calls, Admissible step admits start calls →
      ∀ state ∈ states step start calls, related start state := by
    intro start calls admissible
    induction calls generalizing start with
    | nil =>
        intro state member
        rw [List.mem_singleton.mp member]
        exact refl start
    | cons call rest ih =>
        intro state member
        rcases List.mem_cons.mp member with rfl | inside
        · exact refl state
        · exact trans (steps start call admissible.1)
            (ih (step start call) admissible.2 state inside)
  induction calls generalizing start with
  | nil => exact List.pairwise_singleton _ _
  | cons call rest ih =>
      refine List.pairwise_cons.mpr ⟨fun state inside => ?_, ih admissible.2⟩
      exact trans (steps start call admissible.1)
        (later (step start call) rest admissible.2 state inside)

theorem admissible_true (start : σ) (calls : List α) :
    Admissible step (fun _ _ => True) start calls := by
  induction calls generalizing start with
  | nil => exact trivial
  | cons call rest ih => exact ⟨trivial, ih (step start call)⟩

theorem pairwise_states {related : σ → σ → Prop} (refl : ∀ state, related state state)
    (trans : ∀ {first second third}, related first second → related second third →
      related first third)
    (steps : ∀ state call, related state (step state call)) (start : σ) (calls : List α) :
    (states step start calls).Pairwise related :=
  pairwise_states_of_admissible refl trans (fun state call _ => steps state call)
    (admissible_true start calls)

theorem admissible_of_forall_mem_states
    (needed : ∀ state call, invariant (step state call) → admits state call) {start : σ}
    {calls : List α} (sound : ∀ state ∈ states step start calls, invariant state) :
    Admissible step admits start calls := by
  induction calls generalizing start with
  | nil => exact trivial
  | cons call rest ih =>
      have later : ∀ state ∈ states step (step start call) rest, invariant state := by
        intro state member
        exact sound state (List.mem_cons_of_mem _ member)
      exact ⟨needed start call (later _ (start_mem_states _ rest)), ih later⟩

/-- **Where a call keeps an invariant exactly when it meets a condition**, the invariant holds
throughout the admissible runs and no others. -/
theorem forall_mem_states_iff_admissible
    (settled : ∀ state call, invariant state → (invariant (step state call) ↔ admits state call))
    {start : σ} (initial : invariant start) (calls : List α) :
    (∀ state ∈ states step start calls, invariant state) ↔ Admissible step admits start calls := by
  refine ⟨fun sound => ?_, forall_mem_states
    (fun state call holds admitted => (settled state call holds).mpr admitted) initial⟩
  induction calls generalizing start with
  | nil => exact trivial
  | cons call rest ih =>
      have later : ∀ state ∈ states step (step start call) rest, invariant state := by
        intro state member
        exact sound state (List.mem_cons_of_mem _ member)
      have next := later _ (start_mem_states _ rest)
      exact ⟨(settled start call initial).mp next, ih next later⟩

theorem Admissible.of_invariant {allows admits : σ → α → Prop}
    (kept : ∀ state call, invariant state → allows state call → invariant (step state call))
    (grants : ∀ state call, invariant state → allows state call → admits state call) {start : σ}
    (initial : invariant start) {calls : List α} (allowed : Admissible step allows start calls) :
    Admissible step admits start calls := by
  induction calls generalizing start with
  | nil => exact trivial
  | cons call rest ih =>
      exact ⟨grants start call initial allowed.1, ih (kept start call initial allowed.1) allowed.2⟩

theorem forall_mem_states_of_kept
    (kept : ∀ state call, invariant state → invariant (step state call)) {start : σ}
    (initial : invariant start) (calls : List α) :
    ∀ state ∈ states step start calls, invariant state := by
  exact forall_mem_states (fun state call holds _ => kept state call holds) initial
    (admissible_true start calls)

end Chancela.Run
