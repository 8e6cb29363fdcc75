import Chancela.ApiKey.Key
import Chancela.Foundation.TokenBucket
import Mathlib.Data.Rat.Cast.Order
import Mathlib.Tactic.NormNum

/-! # Rate limits of API keys

The policy of a key and the token bucket kept for it, `RateLimit::check`. Its floating-point
numbers are read as rationals, and so are the seconds of an instant. A check is a draw from the
bucket (`Chancela.RateLimit.bucket_check`), so the calls let through are bounded by the way of
the clock forward.
-/

namespace Chancela

namespace RateLimit

structure RateLimitState where
  tokens : ℚ
  lastRefill : ℚ
deriving DecidableEq

/-- `RateLimitOutcome`, with the seconds to wait. -/
inductive RateLimitOutcome where
  | allowed
  | limited (retryAfter : ℚ)
deriving DecidableEq

def RateLimitOutcome.isAllowed : RateLimitOutcome → Bool
  | allowed => true
  | limited _ => false

def RateLimitState.bucket (state : RateLimitState) : TokenBucket ℚ :=
  ⟨state.tokens, state.lastRefill⟩

def capacity (limit : RateLimit) : ℚ := limit.burst.toNat

def refillPerSecond (limit : RateLimit) : ℚ := limit.rpm.toNat / 60

def initialState (limit : RateLimit) (now : ℚ) : RateLimitState where
  tokens := limit.capacity
  lastRefill := now

def check (limit : RateLimit) (state : RateLimitState) (now : ℚ) :
    RateLimitOutcome × RateLimitState :=
  let elapsed := max (now - state.lastRefill) 0
  let tokens := min (state.tokens + elapsed * limit.refillPerSecond) limit.capacity
  if 1 ≤ tokens then (.allowed, ⟨tokens - 1, now⟩)
  else
    let rate := limit.refillPerSecond
    -- no refill ever where the rate is 0: the largest `u32` of seconds stands in
    (.limited (if 0 < rate then (1 - tokens) / rate else 4294967295), ⟨tokens, now⟩)

def checks (limit : RateLimit) (state : RateLimitState) :
    List ℚ → List RateLimitOutcome × RateLimitState
  | [] => ([], state)
  | now :: rest =>
      let (outcome, after) := limit.check state now
      let (later, final) := limit.checks after rest
      (outcome :: later, final)

def allowed (outcomes : List RateLimitOutcome) : Nat := outcomes.countP RateLimitOutcome.isAllowed

variable {limit : RateLimit} {state : RateLimitState} {now start : ℚ} {readings : List ℚ}

theorem capacity_nonneg : 0 ≤ limit.capacity := Nat.cast_nonneg _

theorem one_le_capacity (holds : 0 < limit.burst) : 1 ≤ limit.capacity := Nat.one_le_cast.mpr holds

theorem refillPerSecond_nonneg : 0 ≤ limit.refillPerSecond :=
  div_nonneg (Nat.cast_nonneg _) (by norm_num)

theorem refillPerSecond_pos (refills : 0 < limit.rpm) : 0 < limit.refillPerSecond :=
  div_pos (Nat.cast_pos.mpr refills) (by norm_num)

/-! ### Checks as draws -/

theorem bucket_check :
    ((limit.check state now).1.isAllowed, (limit.check state now).2.bucket) =
      state.bucket.draw limit.capacity limit.refillPerSecond now := by
  unfold check TokenBucket.draw TokenBucket.refill RateLimitState.bucket
  dsimp only
  split <;> rfl

theorem bucket_checks :
    ((limit.checks state readings).1.map RateLimitOutcome.isAllowed,
        (limit.checks state readings).2.bucket) =
      state.bucket.drawAll limit.capacity limit.refillPerSecond readings := by
  induction readings generalizing state with
  | nil => rfl
  | cons now rest ih =>
      have first := @bucket_check limit state now
      have later := @ih (limit.check state now).2
      rw [TokenBucket.drawAll, ← first]
      dsimp only
      rw [← later]
      rfl

theorem allowed_checks : allowed (limit.checks state readings).1 =
    (state.bucket.drawAll limit.capacity limit.refillPerSecond readings).1.count true := by
  rw [← bucket_checks, allowed, List.count, List.countP_map]
  exact List.countP_congr fun outcome _ => by cases outcome <;> rfl

/-! ### What a run lets through -/

theorem within_checks : ((limit.checks (limit.initialState start) readings).2.bucket).Within
    limit.capacity := by
  have full : (limit.initialState start).bucket.Within limit.capacity :=
    ⟨capacity_nonneg, le_rfl⟩
  have drawn : (limit.checks (limit.initialState start) readings).2.bucket = _ :=
    congrArg Prod.snd bucket_checks
  rw [drawn]
  exact full.drawAll refillPerSecond_nonneg

theorem allowed_le_forward : (allowed (limit.checks (limit.initialState start) readings).1 : ℚ) ≤
    limit.capacity + TokenBucket.forward start readings * limit.refillPerSecond := by
  have drawn := TokenBucket.drawn_le limit.capacity limit.refillPerSecond
    (limit.initialState start).bucket readings
  have left : 0 ≤ ((limit.initialState start).bucket.drawAll limit.capacity
      limit.refillPerSecond readings).2.tokens := by
    rw [← bucket_checks]
    exact within_checks.nonneg
  rw [allowed_checks]
  exact (le_add_of_nonneg_right left).trans drawn

theorem retryAfter_eq {retryAfter : ℚ} (refills : 0 < limit.rpm)
    (told : (limit.check state now).1 = .limited retryAfter) :
    retryAfter = (1 - (limit.check state now).2.tokens) / limit.refillPerSecond := by
  unfold check at told ⊢
  dsimp only at told ⊢
  by_cases full : 1 ≤ min (state.tokens + max (now - state.lastRefill) 0 * limit.refillPerSecond)
    limit.capacity
  · rw [if_pos full] at told
    cases told
  · rw [if_neg full, if_pos (refillPerSecond_pos refills)] at told
    rw [if_neg full]
    exact (RateLimitOutcome.limited.inj told).symm

theorem eq_allowed_of_isAllowed {outcome : RateLimitOutcome} (through : outcome.isAllowed = true) :
    outcome = .allowed := by
  cases outcome with
  | allowed => rfl
  | limited _ => cases through

theorem check_retryAfter {retryAfter : ℚ} (refills : 0 < limit.rpm) (holds : 0 < limit.burst)
    (told : (limit.check state now).1 = .limited retryAfter) :
    (limit.check (limit.check state now).2 (now + retryAfter)).1 = .allowed := by
  have drawn := @bucket_check limit state now
  have short : (state.bucket.draw limit.capacity limit.refillPerSecond now).1 = false := by
    rw [← drawn, told]
    rfl
  have served := TokenBucket.draw_wait (refillPerSecond_pos refills) (one_le_capacity holds) short
  rw [← drawn] at served
  rw [retryAfter_eq refills told]
  exact eq_allowed_of_isAllowed ((congrArg Prod.fst bucket_check).trans served)

/-- **What a bucket lets through**, over any readings of a clock: its burst and what the way of
the clock forward refills. Where no stretch of time is walked twice, as on a clock that never
moves back, that way is the time up to the latest reading. -/
theorem bounded (limit : RateLimit) (start : ℚ) (readings : List ℚ) :
    (allowed (limit.checks (limit.initialState start) readings).1 : ℚ) ≤
        limit.burst.toNat + limit.rpm.toNat / 60 * TokenBucket.forward start readings ∧
      (TokenBucket.WalkedOnce start start readings →
        (allowed (limit.checks (limit.initialState start) readings).1 : ℚ) ≤
          limit.burst.toNat +
            limit.rpm.toNat / 60 * (TokenBucket.latest start readings - start)) ∧
      ((start :: readings).Pairwise (· ≤ ·) → TokenBucket.WalkedOnce start start readings) ∧
      0 ≤ (limit.checks (limit.initialState start) readings).2.tokens ∧
      (limit.checks (limit.initialState start) readings).2.tokens ≤ limit.burst.toNat ∧
      ∀ now retryAfter, 0 < limit.rpm → 0 < limit.burst →
        (limit.check (limit.checks (limit.initialState start) readings).2 now).1 =
            .limited retryAfter →
          (limit.check (limit.check (limit.checks (limit.initialState start) readings).2 now).2
            (now + retryAfter)).1 = .allowed := by
  have bound : (allowed (limit.checks (limit.initialState start) readings).1 : ℚ) ≤
      limit.burst.toNat + limit.rpm.toNat / 60 * TokenBucket.forward start readings := by
    rw [mul_comm]
    exact allowed_le_forward
  refine ⟨bound, fun once => ?_, TokenBucket.walkedOnce_of_sorted, within_checks.nonneg,
    within_checks.le, fun now retryAfter refills holds told => check_retryAfter refills holds told⟩
  rw [← TokenBucket.forward_eq readings once]
  exact bound

/-- A clock that steps back and forward again is credited twice, and no wait helps a key that
never refills. -/
theorem credited_again :
    ((1 : ℚ) + 60 / 60 * (TokenBucket.latest 0 [0, -10, 0] - 0) <
        allowed (checks ⟨60, 1⟩ (initialState ⟨60, 1⟩ 0) [0, -10, 0]).1 ∧
      (check ⟨0, 1⟩ (checks ⟨0, 1⟩ (initialState ⟨0, 1⟩ 0) [0]).2 0).1 = .limited 4294967295 ∧
      (check ⟨0, 1⟩ (check ⟨0, 1⟩ (checks ⟨0, 1⟩ (initialState ⟨0, 1⟩ 0) [0]).2 0).2
        (0 + 4294967295)).1 ≠ .allowed) := by
  decide +kernel

end RateLimit

end Chancela
