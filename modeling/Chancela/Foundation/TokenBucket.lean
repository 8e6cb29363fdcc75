import Mathlib.Algebra.Order.Field.Basic
import Mathlib.Tactic.Linarith
import Mathlib.Tactic.Ring

/-! # Token buckets

A bucket of bounded capacity that time fills and whole tokens are drawn from. Every draw
credits the time the clock moved forward since the draw before, so what is drawn is bounded
by the capacity and by that time (`TokenBucket.drawn_le`): by the time on the clock itself
only where no stretch of it is walked twice (`TokenBucket.forward_eq`).
-/

namespace Chancela

/-- The tokens held, and the instant of the last refill. -/
@[ext] structure TokenBucket (K : Type*) where
  tokens : K
  last : K

namespace TokenBucket

variable {K : Type*} [Field K] [LinearOrder K] {capacity rate : K}
  {bucket : TokenBucket K} {now : K}

/-- Credit the time since the last refill, up to the capacity. -/
def refill (capacity rate : K) (bucket : TokenBucket K) (now : K) : TokenBucket K where
  tokens := min (bucket.tokens + max (now - bucket.last) 0 * rate) capacity
  last := now

def draw (capacity rate : K) (bucket : TokenBucket K) (now : K) : Bool × TokenBucket K :=
  let filled := bucket.refill capacity rate now
  if 1 ≤ filled.tokens then (true, ⟨filled.tokens - 1, now⟩) else (false, filled)

def drawAll (capacity rate : K) (bucket : TokenBucket K) : List K → List Bool × TokenBucket K
  | [] => ([], bucket)
  | now :: rest =>
      let (drawn, after) := bucket.draw capacity rate now
      let (later, final) := after.drawAll capacity rate rest
      (drawn :: later, final)

def forward (last : K) : List K → K
  | [] => 0
  | now :: rest => max (now - last) 0 + forward now rest

def latest (last : K) (readings : List K) : K := readings.foldl max last

/-- The clock moves forward only from the latest reading, so that no stretch of time is
walked twice. -/
def WalkedOnce (latest last : K) : List K → Prop
  | [] => True
  | now :: rest => (now ≤ last ∨ last = latest) ∧ WalkedOnce (max latest now) now rest

/-- The tokens of a bucket lie between none and its capacity. -/
structure Within (capacity : K) (bucket : TokenBucket K) : Prop where
  nonneg : 0 ≤ bucket.tokens
  le : bucket.tokens ≤ capacity

section Step

theorem refill_tokens_le :
    (bucket.refill capacity rate now).tokens ≤
      bucket.tokens + max (now - bucket.last) 0 * rate :=
  min_le_left _ _

theorem draw_of_full (full : 1 ≤ (bucket.refill capacity rate now).tokens) :
    bucket.draw capacity rate now = (true, ⟨(bucket.refill capacity rate now).tokens - 1, now⟩) :=
  if_pos full

theorem draw_of_short (short : ¬1 ≤ (bucket.refill capacity rate now).tokens) :
    bucket.draw capacity rate now = (false, bucket.refill capacity rate now) :=
  if_neg short

theorem last_draw : (bucket.draw capacity rate now).2.last = now := by
  unfold draw
  dsimp only
  split <;> rfl

theorem draw_le (capacity rate : K) (bucket : TokenBucket K) (now : K) :
    (if (bucket.draw capacity rate now).1 then 1 else 0) +
        (bucket.draw capacity rate now).2.tokens ≤
      bucket.tokens + max (now - bucket.last) 0 * rate := by
  by_cases full : 1 ≤ (bucket.refill capacity rate now).tokens
  · rw [draw_of_full full, if_pos rfl, add_sub_cancel]
    exact refill_tokens_le
  · rw [draw_of_short full, if_neg Bool.false_ne_true, zero_add]
    exact refill_tokens_le

variable [IsStrictOrderedRing K]

theorem Within.draw (within : bucket.Within capacity) (positive : 0 ≤ rate) :
    (bucket.draw capacity rate now).2.Within capacity := by
  have credit : 0 ≤ max (now - bucket.last) 0 * rate := mul_nonneg (le_max_right _ _) positive
  have filled : (bucket.refill capacity rate now).Within capacity :=
    ⟨le_min (add_nonneg within.nonneg credit) (within.nonneg.trans within.le), min_le_right _ _⟩
  by_cases full : 1 ≤ (bucket.refill capacity rate now).tokens
  · rw [draw_of_full full]
    exact ⟨sub_nonneg.mpr full, (sub_le_self _ zero_le_one).trans filled.le⟩
  · rw [draw_of_short full]
    exact filled

theorem draw_wait (filling : 0 < rate) (holds : 1 ≤ capacity)
    (short : (bucket.draw capacity rate now).1 = false) :
    ((bucket.draw capacity rate now).2.draw capacity rate
      (now + (1 - (bucket.draw capacity rate now).2.tokens) / rate)).1 = true := by
  have missing : ¬1 ≤ (bucket.refill capacity rate now).tokens := by
    intro full
    rw [draw_of_full full] at short
    cases short
  rw [draw_of_short missing]
  have wait : 0 ≤ (1 - (bucket.refill capacity rate now).tokens) / rate :=
    div_nonneg (sub_nonneg.mpr (not_le.mp missing).le) filling.le
  refine congrArg Prod.fst (draw_of_full ?_)
  refine le_min ?_ holds
  change 1 ≤ _ + max (now + (1 - (bucket.refill capacity rate now).tokens) / rate - now) 0 * rate
  rw [add_sub_cancel_left, max_eq_left wait, div_mul_cancel₀ _ filling.ne', add_sub_cancel]

end Step

section Run

variable [IsStrictOrderedRing K]

theorem Within.drawAll {readings : List K} (within : bucket.Within capacity)
    (positive : 0 ≤ rate) : (bucket.drawAll capacity rate readings).2.Within capacity := by
  induction readings generalizing bucket with
  | nil => exact within
  | cons now rest ih => exact ih (within.draw positive)

/-- **What is drawn is bounded by what was held and by the time the clock moved forward.** -/
theorem drawn_le (capacity rate : K) (bucket : TokenBucket K) (readings : List K) :
    ((bucket.drawAll capacity rate readings).1.count true : K) +
        (bucket.drawAll capacity rate readings).2.tokens ≤
      bucket.tokens + forward bucket.last readings * rate := by
  induction readings generalizing bucket with
  | nil => simp [drawAll, forward]
  | cons now rest ih =>
      have later := ih (bucket.draw capacity rate now).2
      have first := draw_le capacity rate bucket now
      rw [last_draw] at later
      have counted : ((bucket.drawAll capacity rate (now :: rest)).1.count true : K) =
          ((bucket.draw capacity rate now).2.drawAll capacity rate rest).1.count true +
            if (bucket.draw capacity rate now).1 then 1 else 0 := by
        rw [drawAll, List.count_cons, Nat.cast_add, Nat.cast_ite, Nat.cast_one, Nat.cast_zero]
        simp only [beq_true]
      have final : (bucket.drawAll capacity rate (now :: rest)).2 =
          ((bucket.draw capacity rate now).2.drawAll capacity rate rest).2 := rfl
      rw [counted, final, forward, add_mul]
      linarith

end Run

section Clock

variable {last : K}

omit [Field K] in
theorem walkedOnce_of_sorted {readings : List K} (sorted : (last :: readings).Pairwise (· ≤ ·)) :
    WalkedOnce last last readings := by
  induction readings generalizing last with
  | nil => trivial
  | cons now rest ih =>
      obtain ⟨first, later⟩ := List.pairwise_cons.mp sorted
      refine ⟨.inr rfl, ?_⟩
      rw [max_eq_right (first now List.mem_cons_self)]
      exact ih later

variable [IsStrictOrderedRing K]

theorem forward_of_behind {seen : K} (readings : List K) (behind : last < seen)
    (once : WalkedOnce seen last readings) :
    forward last readings = 0 ∧ latest seen readings = seen := by
  induction readings generalizing last with
  | nil => exact ⟨rfl, rfl⟩
  | cons now rest ih =>
      obtain ⟨step, onward⟩ := once
      have back : now ≤ last := step.resolve_right behind.ne
      have still : max seen now = seen := max_eq_left (back.trans behind.le)
      rw [still] at onward
      obtain ⟨none, same⟩ := ih (back.trans_lt behind) onward
      refine ⟨?_, ?_⟩
      · rw [forward, none, add_zero, max_eq_right (sub_nonpos.mpr back)]
      · rw [latest, List.foldl_cons, still]
        exact same

theorem forward_eq (readings : List K) (once : WalkedOnce last last readings) :
    forward last readings = latest last readings - last := by
  induction readings generalizing last with
  | nil => exact (sub_self last).symm
  | cons now rest ih =>
      obtain ⟨-, onward⟩ := once
      rcases le_or_gt last now with ahead | back
      · rw [max_eq_right ahead] at onward
        rw [forward, ih onward, max_eq_left (sub_nonneg.mpr ahead), latest, latest,
          List.foldl_cons, max_eq_right ahead]
        ring
      · rw [max_eq_left back.le] at onward
        obtain ⟨none, same⟩ := forward_of_behind rest back onward
        rw [forward, none, max_eq_right (sub_nonpos.mpr back.le), latest, List.foldl_cons,
          max_eq_left back.le]
        rw [latest] at same
        rw [same, sub_self, add_zero]

end Clock

end TokenBucket

end Chancela
