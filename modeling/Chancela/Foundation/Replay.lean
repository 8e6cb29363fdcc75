import Mathlib.Data.List.Induction

/-! # Logs replayed

A change of a state that may not apply, and a log of changes applied in order. A field is what
a change sets: what a change set shows in the end unless a later change of the log sets the
field again (`Chancela.Replay.shows_of_replay`).
-/

namespace Chancela.Replay

variable {σ ε φ : Type*} {apply : σ → ε → Option σ}

def replay (apply : σ → ε → Option σ) (start : σ) (log : List ε) : Option σ :=
  log.foldlM apply start

@[simp] theorem replay_nil (start : σ) : replay apply start [] = some start := rfl

theorem replay_append (start : σ) (first second : List ε) :
    replay apply start (first ++ second) =
      (replay apply start first).bind fun middle => replay apply middle second :=
  List.foldlM_append ..

theorem replay_concat {start middle : σ} {log : List ε} (earlier : replay apply start log =
    some middle) (change : ε) : replay apply start (log ++ [change]) = apply middle change := by
  rw [replay_append, earlier, Option.bind_some]
  exact List.foldlM_cons.trans (Option.bind_fun_some _)

theorem replay_cons_eq_some {start final : σ} {change : ε} {rest : List ε}
    (replayed : replay apply start (change :: rest) = some final) :
    ∃ middle, apply start change = some middle ∧ replay apply middle rest = some final :=
  Option.bind_eq_some_iff.mp (List.foldlM_cons.symm.trans replayed)

theorem invariant_of_replay {invariant : σ → Prop}
    (kept : ∀ {state next change}, apply state change = some next → invariant state →
      invariant next) {log : List ε} {start final : σ}
    (replayed : replay apply start log = some final) (initial : invariant start) :
    invariant final := by
  induction log generalizing start with
  | nil => exact Option.some.inj replayed ▸ initial
  | cons change rest ih =>
      obtain ⟨middle, applied, later⟩ := replay_cons_eq_some replayed
      exact ih later (kept applied initial)

/-- What changes set, and when a state shows it. -/
structure Fields (apply : σ → ε → Option σ) (φ : Type*) where
  sets : ε → φ → Prop
  shows : ε → φ → σ → Prop
  /-- A change shows in the fields it sets. -/
  shown : ∀ {state next change field}, apply state change = some next → sets change field →
    shows change field next
  /-- A change leaves the other fields as they are. -/
  spared : ∀ {state next change field} earlier, apply state change = some next →
    ¬ sets change field → shows earlier field state → shows earlier field next

/-- **A change shows until a later one sets the field.** -/
theorem shows_of_replay (fields : Fields apply φ) {start final : σ} {before after : List ε}
    {change : ε} {field : φ}
    (replayed : replay apply start (before ++ change :: after) = some final)
    (sets : fields.sets change field) (spared : ∀ later ∈ after, ¬ fields.sets later field) :
    fields.shows change field final := by
  rw [replay_append] at replayed
  obtain ⟨middle, -, onward⟩ := Option.bind_eq_some_iff.mp replayed
  obtain ⟨next, applied, later⟩ := replay_cons_eq_some onward
  have shown := fields.shown applied sets
  clear onward applied replayed
  induction after generalizing next with
  | nil => exact Option.some.inj later ▸ shown
  | cons second rest ih =>
      obtain ⟨following, applied, onward⟩ := replay_cons_eq_some later
      apply ih (fun other member => spared other (List.mem_cons_of_mem second member)) following
        onward
      exact fields.spared change applied (spared second List.mem_cons_self) shown

end Chancela.Replay
