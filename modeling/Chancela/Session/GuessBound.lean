import Chancela.Session.SignIn

/-! # How many codes can be tried

Wrong second-factor codes of a user across a run of sign-ins. The failures the shared
limiter has on record bound them as long as no password clears a failure and no code is
tried past the cap on one of several challenges; a challenge that is alone past the cap has
at most its own attempts left (`Chancela.SignIns.Capped`).
-/

namespace Chancela

namespace SignIns

/-- A call of one of the two handlers. -/
inductive Call where
  | createSession (attempt : PasswordAttempt)
  | completeTwoFactorChallenge (attempt : CodeAttempt)

def Call.now : Call → Int
  | .createSession attempt => attempt.now
  | .completeTwoFactorChallenge attempt => attempt.now

def serve (signIns : SignIns) : Call → SignIns × SignInOutcome
  | .createSession attempt => signIns.createSession attempt
  | .completeTwoFactorChallenge attempt => signIns.completeTwoFactorChallenge attempt

/-- The sign-ins with the wrong codes evaluated for one user so far. -/
structure Watched where
  signIns : SignIns
  wrong : Nat

def Watched.step (user : Uuid) (watched : Watched) (call : Call) : Watched where
  signIns := (watched.signIns.serve call).1
  wrong := watched.wrong + if (watched.signIns.serve call).2 = .invalidCode user then 1 else 0

end SignIns

namespace Counter

def failures (counter : Option Counter) (now : Int) : Nat :=
  ((live counter now).map count).getD 0

/-- The counter does not end within the window that opens at an instant. -/
def Undisturbed (opens : Int) (counter : Option Counter) : Prop :=
  ∀ found, counter = some found →
    found.expiresAt ≤ opens ∨ opens + signinWindowSecs * second ≤ found.expiresAt

variable {counter : Option Counter} {opens now : Int}

theorem Undisturbed.live_eq (undisturbed : Undisturbed opens counter) (after : opens ≤ now)
    (before : now < opens + signinWindowSecs * second) : live counter now = live counter opens := by
  cases counter with
  | none => rfl
  | some found =>
      have ends := undisturbed found rfl
      have same : (now < found.expiresAt) = (opens < found.expiresAt) := by
        rw [eq_iff_iff]
        omega
      simp only [live, Option.filter_some, same]

theorem blocks_iff (within : failures counter now < 2 ^ 32) :
    globalLimitBlocks (peek counter now) globalSigninFailureCap = true ↔
      globalSigninFailureCap ≤ failures counter now := by
  rw [peek]
  cases found : live counter now with
  | none => simp only [failures, found, globalLimitBlocks, Option.map_none, Option.getD_none,
      decide_eq_true_eq]
  | some kept =>
      simp only [failures, found, Option.map_some, Option.getD_some] at within ⊢
      rw [globalLimitBlocks, Nat.mod_eq_of_lt within, decide_eq_true_eq]

theorem Undisturbed.recordFailure (undisturbed : Undisturbed opens counter) (after : opens ≤ now)
    (before : now < opens + signinWindowSecs * second) :
    Undisturbed opens (some (Counter.recordFailure counter signinWindowSecs now)) ∧
      failures (some (Counter.recordFailure counter signinWindowSecs now)) opens =
        failures counter opens + 1 := by
  have same := undisturbed.live_eq after before
  have opened : 0 < signinWindowSecs * second := by decide
  rw [Counter.recordFailure, failures, failures, ← same]
  cases found : live counter now with
  | none =>
      refine ⟨fun made given => ?_, ?_⟩
      · obtain rfl := Option.some.inj given
        exact .inr (by simp only; omega)
      · have later : opens < now + signinWindowSecs * second := by omega
        simp only [live, Option.filter_some, decide_eq_true later, ↓reduceIte, Option.map_some,
          Option.getD_some, Option.map_none, Option.getD_none]
  | some kept =>
      obtain ⟨given, later⟩ := Option.filter_eq_some_iff.mp found
      rw [decide_eq_true_eq] at later
      have ends : opens + signinWindowSecs * second ≤ kept.expiresAt := by
        rcases undisturbed kept given with ended | ends
        · omega
        · exact ends
      refine ⟨fun made given => ?_, ?_⟩
      · obtain rfl := Option.some.inj given
        exact .inr ends
      · have open_ : opens < kept.expiresAt := by omega
        simp only [live, Option.filter_some, decide_eq_true open_, ↓reduceIte, Option.map_some,
          Option.getD_some]

end Counter

namespace SignIns

/-- A password does not clear failures on record, and past the cap a wrong code is tried only
on the one challenge left. -/
def Respects (signIns : SignIns) (user : Uuid) : Call → Prop
  | .createSession attempt =>
      attempt.uid = user → attempt.verified = true → attempt.account.isSome = true →
        globalLimitBlocks (Counter.peek (signIns.limiter user) attempt.now)
          globalSigninFailureCap = false →
        (signIns.backoffEntry user attempt.now).nextAllowedAt ≤ attempt.now →
        Counter.failures (signIns.limiter user) attempt.now = 0
  | .completeTwoFactorChallenge attempt =>
      ∀ record, signIns.pruned attempt.now attempt.challengeId = some record →
        record.userId = user → attempt.accepted = some false →
        globalLimitBlocks (Counter.peek (signIns.limiter user) attempt.now)
          globalSigninFailureCap = true →
        ∀ id other, signIns.pruned attempt.now id = some other → other.userId = user →
          id = attempt.challengeId

/-- The failures on record stay within the cap, or past it within the attempts of the one
challenge that is left. -/
def Capped (pending : Keyed Uuid PendingTwoFactor) (user : Uuid) (recorded : Nat) : Prop :=
  recorded ≤ globalSigninFailureCap ∨
    recorded ≤ globalSigninFailureCap + twoFactorMaxAttempts ∧
      ∀ id record, pending id = some record → record.userId = user →
        recorded ≤ globalSigninFailureCap + record.fails ∧ record.fails < twoFactorMaxAttempts ∧
          ∀ other found, pending other = some found → found.userId = user → other = id

/-- What holds of the wrong codes between the calls of a window. -/
structure Bounded (user : Uuid) (opens : Int) (watched : Watched) : Prop where
  undisturbed : Counter.Undisturbed opens (watched.signIns.limiter user)
  recorded : watched.wrong ≤ Counter.failures (watched.signIns.limiter user) opens
  capped : Capped watched.signIns.pending user
    (Counter.failures (watched.signIns.limiter user) opens)

variable {signIns : SignIns} {user : Uuid} {opens now : Int} {recorded : Nat}
  {pending fewer : Keyed Uuid PendingTwoFactor}

theorem eq_some_of_pruned {id : Uuid} {record : PendingTwoFactor}
    (kept : signIns.pruned now id = some record) : signIns.pending id = some record :=
  Keyed.eq_some_of_retain kept

theorem Capped.le (capped : Capped pending user recorded) :
    recorded ≤ globalSigninFailureCap + twoFactorMaxAttempts := by
  rcases capped with within | ⟨past, -⟩
  · exact within.trans (Nat.le_add_right _ _)
  · exact past

theorem Capped.mono (capped : Capped pending user recorded)
    (kept : ∀ id record, fewer id = some record → record.userId = user →
      pending id = some record) : Capped fewer user recorded := by
  refine capped.imp_right fun ⟨past, alone⟩ => ⟨past, fun id record given owned => ?_⟩
  obtain ⟨counted, tries, only⟩ := alone id record (kept id record given owned) owned
  exact ⟨counted, tries, fun other found present own =>
    only other found (kept other found present own) own⟩

/-- The throttle and the backoff let a call pass. -/
structure Passes (signIns : SignIns) (attempt : PasswordAttempt) : Prop where
  unblocked : globalLimitBlocks (Counter.peek (signIns.limiter attempt.uid) attempt.now)
    globalSigninFailureCap = false
  allowed : (signIns.backoffEntry attempt.uid attempt.now).nextAllowedAt ≤ attempt.now

/-- What `create_session` can do to the counters and the challenges. -/
inductive PasswordEffect (signIns : SignIns) (attempt : PasswordAttempt) (later : SignIns) :
    Prop where
  | unchanged (limiter : later.limiter = signIns.limiter)
      (pending : later.pending = signIns.pending)
  | counted (passes : signIns.Passes attempt)
      (limiter : later.limiter = signIns.limiter.insert attempt.uid
        (Counter.recordFailure (signIns.limiter attempt.uid) signinWindowSecs attempt.now))
      (pending : later.pending = signIns.pending)
  | cleared (passes : signIns.Passes attempt) (verified : attempt.verified = true)
      (account : attempt.account.isSome = true)
      (limiter : later.limiter = signIns.limiter.erase attempt.uid)
      (pending : ∀ id record, later.pending id = some record → record.userId ≠ attempt.uid →
        signIns.pending id = some record)

theorem signIn_pending (signIns : SignIns) {attempt : PasswordAttempt} {account : Account}
    (id : Uuid) (record : PendingTwoFactor)
    (found : (signIns.signIn attempt account).1.pending id = some record)
    (foreign : record.userId ≠ attempt.uid) : signIns.pending id = some record := by
  rw [signIn] at found
  split at found
  · exact found
  · split at found
    · rcases Keyed.insert_eq_some_iff.mp found with ⟨-, rfl⟩ | ⟨-, kept⟩
      · exact absurd rfl foreign
      · exact Keyed.eq_some_of_retain kept
    · exact found

theorem signIn_limiter (signIns : SignIns) (attempt : PasswordAttempt) (account : Account) :
    (signIns.signIn attempt account).1.limiter = signIns.limiter := by
  rw [signIn]
  split
  · rfl
  · split <;> rfl

theorem signIn_outcome (signIns : SignIns) (attempt : PasswordAttempt) (account : Account) :
    (signIns.signIn attempt account).2 ≠ .invalidCode user := by
  rw [signIn]
  split
  · exact fun same => by cases same
  · split <;> exact fun same => by cases same

theorem createSession_outcome (signIns : SignIns) (attempt : PasswordAttempt) :
    (signIns.createSession attempt).2 ≠ .invalidCode user := by
  rw [createSession]
  split
  · exact fun same => by cases same
  dsimp only
  split
  · exact fun same => by cases same
  split
  · exact fun same => by cases same
  split
  · exact fun same => by cases same
  · exact signIn_outcome _ attempt _

theorem passwordEffect (signIns : SignIns) (attempt : PasswordAttempt) :
    signIns.PasswordEffect attempt (signIns.createSession attempt).1 := by
  rw [createSession]
  split
  · exact .unchanged rfl rfl
  rename_i unblocked
  rw [Bool.not_eq_true] at unblocked
  dsimp only
  split
  · exact .unchanged rfl rfl
  rename_i allowed
  have passes : signIns.Passes attempt := ⟨unblocked, not_lt.mp allowed⟩
  split
  · exact .counted passes rfl rfl
  rename_i verified
  rw [Bool.not_eq_false] at verified
  split
  · exact .unchanged rfl rfl
  · rename_i account given
    refine .cleared passes verified (by rw [given]; rfl) (signIn_limiter _ attempt account) ?_
    intro id record found foreign
    exact signIn_pending (signIns.clearThrottles attempt.uid) id record found foreign

/-- What `complete_two_factor_challenge` can do to the counters and the challenges. -/
inductive CodeEffect (signIns : SignIns) (attempt : CodeAttempt) (later : SignIns) :
    SignInOutcome → Prop where
  | taken {outcome : SignInOutcome} (limiter : later.limiter = signIns.limiter)
      (pending : ∀ id record, later.pending id = some record → signIns.pending id = some record)
      (unevaluated : ∀ user, outcome ≠ .invalidCode user) : CodeEffect signIns attempt later outcome
  | evaluated (record : PendingTwoFactor)
      (live : signIns.pruned attempt.now attempt.challengeId = some record)
      (wrong : attempt.accepted = some false)
      (limiter : later.limiter = signIns.limiter.insert record.userId
        (Counter.recordFailure (signIns.limiter record.userId) signinWindowSecs attempt.now))
      (pending : ∀ id found, later.pending id = some found →
        id ≠ attempt.challengeId ∧ signIns.pruned attempt.now id = some found ∨
        id = attempt.challengeId ∧ record.fails + 1 < twoFactorMaxAttempts ∧
          found = { record with fails := record.fails + 1 }) :
      CodeEffect signIns attempt later (.invalidCode record.userId)

theorem codeEffect (signIns : SignIns) (attempt : CodeAttempt) :
    signIns.CodeEffect attempt (signIns.completeTwoFactorChallenge attempt).1
      (signIns.completeTwoFactorChallenge attempt).2 := by
  rw [completeTwoFactorChallenge]
  dsimp only
  split
  · exact .taken rfl (fun id record kept => eq_some_of_pruned kept) (fun _ same => by cases same)
  rename_i record live
  have erased : ∀ id found,
      ((signIns.pruned attempt.now).erase attempt.challengeId) id = some found →
        id ≠ attempt.challengeId ∧ signIns.pruned attempt.now id = some found :=
    fun id found => Keyed.erase_eq_some_iff.mp
  split
  · exact .taken rfl (fun id found kept => eq_some_of_pruned (erased id found kept).2)
      (fun _ same => by cases same)
  · exact .taken rfl (fun id found kept => eq_some_of_pruned (erased id found kept).2)
      (fun _ same => by cases same)
  · rename_i wrong
    refine .evaluated record live wrong rfl fun id found kept => ?_
    dsimp only at kept
    split at kept
    · rename_i tries
      rcases Keyed.insert_eq_some_iff.mp kept with ⟨same, rfl⟩ | ⟨apart, rest⟩
      · exact .inr ⟨same, tries, rfl⟩
      · exact .inl (erased id found rest)
    · exact .inl (erased id found kept)

theorem Capped.succ {attempt : CodeAttempt} {record : PendingTwoFactor} {later : Keyed Uuid _}
    (capped : Capped signIns.pending user recorded)
    (live : signIns.pruned attempt.now attempt.challengeId = some record)
    (owned : record.userId = user)
    (alone : globalSigninFailureCap ≤ recorded →
      ∀ id other, signIns.pruned attempt.now id = some other → other.userId = user →
        id = attempt.challengeId)
    (pending : ∀ id found, later id = some found →
      id ≠ attempt.challengeId ∧ signIns.pruned attempt.now id = some found ∨
      id = attempt.challengeId ∧ record.fails + 1 < twoFactorMaxAttempts ∧
        found = { record with fails := record.fails + 1 }) :
    Capped later user (recorded + 1) := by
  by_cases within : recorded + 1 ≤ globalSigninFailureCap
  · exact .inl within
  have full : globalSigninFailureCap ≤ recorded := by omega
  have counted : recorded ≤ globalSigninFailureCap + record.fails ∧
      (recorded ≤ globalSigninFailureCap ∨ record.fails < twoFactorMaxAttempts) := by
    rcases capped with inside | ⟨-, tried⟩
    · exact ⟨inside.trans (Nat.le_add_right _ _), .inl inside⟩
    · obtain ⟨counted, tries, -⟩ :=
        tried attempt.challengeId record (eq_some_of_pruned live) owned
      exact ⟨counted, .inr tries⟩
  have only : ∀ id found, later id = some found → found.userId = user →
      id = attempt.challengeId ∧ record.fails + 1 < twoFactorMaxAttempts ∧
        found = { record with fails := record.fails + 1 } := by
    intro id found given own
    rcases pending id found given with ⟨apart, kept⟩ | tried
    · exact absurd (alone full id found kept own) apart
    · exact tried
  refine .inr ⟨?_, fun id found given own => ?_⟩
  · have attempts : 1 ≤ twoFactorMaxAttempts := by decide
    omega
  · obtain ⟨rfl, tries, rfl⟩ := only id found given own
    exact ⟨by dsimp only; omega, tries, fun other next present mine =>
      (only other next present mine).1⟩

variable {watched : Watched}

theorem Bounded.failures_eq (bounded : Bounded user opens watched) (after : opens ≤ now)
    (before : now < opens + signinWindowSecs * second) :
    Counter.failures (watched.signIns.limiter user) now =
      Counter.failures (watched.signIns.limiter user) opens := by
  rw [Counter.failures, bounded.undisturbed.live_eq after before, ← Counter.failures]

theorem Bounded.blocks_iff (bounded : Bounded user opens watched) (after : opens ≤ now)
    (before : now < opens + signinWindowSecs * second) :
    globalLimitBlocks (Counter.peek (watched.signIns.limiter user) now) globalSigninFailureCap =
        true ↔
      globalSigninFailureCap ≤ Counter.failures (watched.signIns.limiter user) opens := by
  rw [Counter.blocks_iff, bounded.failures_eq after before]
  rw [bounded.failures_eq after before]
  exact lt_of_le_of_lt bounded.capped.le (by decide)

theorem bounded_createSession {attempt : PasswordAttempt} (bounded : Bounded user opens watched)
    (after : opens ≤ attempt.now) (before : attempt.now < opens + signinWindowSecs * second)
    (respects : watched.signIns.Respects user (.createSession attempt)) :
    Bounded user opens (watched.step user (.createSession attempt)) := by
  have unevaluated : (watched.step user (.createSession attempt)).wrong = watched.wrong := by
    rw [Watched.step, serve, if_neg (createSession_outcome watched.signIns attempt), Nat.add_zero]
  have reached : (watched.step user (.createSession attempt)).signIns =
      (watched.signIns.createSession attempt).1 := rfl
  cases passwordEffect watched.signIns attempt with
  | unchanged limiter pending =>
      refine ⟨?_, ?_, ?_⟩
      · rw [reached, limiter]
        exact bounded.undisturbed
      · rw [unevaluated, reached, limiter]
        exact bounded.recorded
      · rw [reached, limiter, pending]
        exact bounded.capped
  | counted passes limiter pending =>
      by_cases own : user = attempt.uid
      · subst own
        have recorded := bounded.undisturbed.recordFailure after before
        have within : Counter.failures (watched.signIns.limiter attempt.uid) opens <
            globalSigninFailureCap := by
          rw [← not_le, ← bounded.blocks_iff after before, passes.unblocked]
          exact Bool.false_ne_true
        refine ⟨?_, ?_, ?_⟩
        · rw [reached, limiter, Keyed.insert_self]
          exact recorded.1
        · rw [unevaluated, reached, limiter, Keyed.insert_self, recorded.2]
          exact bounded.recorded.trans (Nat.le_succ _)
        · rw [reached, limiter, Keyed.insert_self, recorded.2]
          exact .inl within
      · refine ⟨?_, ?_, ?_⟩
        · rw [reached, limiter, Keyed.insert_of_ne own]
          exact bounded.undisturbed
        · rw [unevaluated, reached, limiter, Keyed.insert_of_ne own]
          exact bounded.recorded
        · rw [reached, limiter, pending, Keyed.insert_of_ne own]
          exact bounded.capped
  | cleared passes verified account limiter pending =>
      by_cases own : user = attempt.uid
      · subst own
        have clean := respects rfl verified account passes.unblocked passes.allowed
        rw [bounded.failures_eq after before] at clean
        refine ⟨?_, ?_, ?_⟩
        · rw [reached, limiter, Keyed.erase_self]
          exact fun _ given => by cases given
        · rw [unevaluated]
          exact (bounded.recorded.trans_eq clean).trans (Nat.zero_le _)
        · rw [reached, limiter, Keyed.erase_self]
          exact .inl (Nat.zero_le _)
      · refine ⟨?_, ?_, ?_⟩
        · rw [reached, limiter, Keyed.erase_of_ne own]
          exact bounded.undisturbed
        · rw [unevaluated, reached, limiter, Keyed.erase_of_ne own]
          exact bounded.recorded
        · rw [reached, limiter, Keyed.erase_of_ne own]
          exact bounded.capped.mono fun id record found owned =>
            pending id record found fun same => own (owned.symm.trans same)

theorem bounded_completeTwoFactorChallenge {attempt : CodeAttempt}
    (bounded : Bounded user opens watched) (after : opens ≤ attempt.now)
    (before : attempt.now < opens + signinWindowSecs * second)
    (respects : watched.signIns.Respects user (.completeTwoFactorChallenge attempt)) :
    Bounded user opens (watched.step user (.completeTwoFactorChallenge attempt)) := by
  have reached : (watched.step user (.completeTwoFactorChallenge attempt)).signIns =
      (watched.signIns.completeTwoFactorChallenge attempt).1 := rfl
  have counts : (watched.step user (.completeTwoFactorChallenge attempt)).wrong = watched.wrong +
      if (watched.signIns.completeTwoFactorChallenge attempt).2 = .invalidCode user then 1
      else 0 := rfl
  have effect := codeEffect watched.signIns attempt
  revert counts effect
  generalize (watched.signIns.completeTwoFactorChallenge attempt).2 = outcome
  intro counts effect
  cases effect with
  | taken limiter pending unevaluated =>
      rw [if_neg (unevaluated user), Nat.add_zero] at counts
      refine ⟨?_, ?_, ?_⟩
      · rw [reached, limiter]
        exact bounded.undisturbed
      · rw [counts, reached, limiter]
        exact bounded.recorded
      · rw [reached, limiter]
        exact bounded.capped.mono fun id record found _ => pending id record found
  | evaluated record live wrong limiter pending =>
      by_cases own : record.userId = user
      · rw [if_pos (congrArg SignInOutcome.invalidCode own)] at counts
        rw [own] at limiter
        have recorded := bounded.undisturbed.recordFailure after before
        refine ⟨?_, ?_, ?_⟩
        · rw [reached, limiter, Keyed.insert_self]
          exact recorded.1
        · rw [counts, reached, limiter, Keyed.insert_self, recorded.2]
          exact Nat.add_le_add_right bounded.recorded 1
        · rw [reached, limiter, Keyed.insert_self, recorded.2]
          refine bounded.capped.succ live own ?_ pending
          intro full id other found owned
          exact respects record live own wrong ((bounded.blocks_iff after before).mpr full) id other
            found owned
      · have foreign : SignInOutcome.invalidCode record.userId ≠ .invalidCode user :=
          fun same => own (SignInOutcome.invalidCode.inj same)
        rw [if_neg foreign, Nat.add_zero] at counts
        have apart : user ≠ record.userId := fun same => own same.symm
        refine ⟨?_, ?_, ?_⟩
        · rw [reached, limiter, Keyed.insert_of_ne apart]
          exact bounded.undisturbed
        · rw [counts, reached, limiter, Keyed.insert_of_ne apart]
          exact bounded.recorded
        · rw [reached, limiter, Keyed.insert_of_ne apart]
          apply bounded.capped.mono
          intro id found given owned
          rcases pending id found given with ⟨-, kept⟩ | ⟨-, -, rfl⟩
          · exact eq_some_of_pruned kept
          · exact absurd owned own

theorem bounded_step {call : Call} (bounded : Bounded user opens watched)
    (after : opens ≤ call.now) (before : call.now < opens + signinWindowSecs * second)
    (respects : watched.signIns.Respects user call) :
    Bounded user opens (watched.step user call) := by
  cases call with
  | createSession attempt => exact bounded_createSession bounded after before respects
  | completeTwoFactorChallenge attempt =>
      exact bounded_completeTwoFactorChallenge bounded after before respects

/-- **How many wrong codes are evaluated.** In a window that opens with no failure on record,
as long as no password clears a failure and past the cap a wrong code is tried only on the
one challenge left, they are at most the cap and the attempts of one challenge. -/
theorem wrong_le (user : Uuid) (opens : Int) (start : SignIns)
    (clean : Counter.live (start.limiter user) opens = none) (calls : List Call)
    (window : ∀ call ∈ calls, opens ≤ call.now ∧ call.now < opens + signinWindowSecs * second)
    (respects : Run.Admissible (Watched.step user)
      (fun watched call => watched.signIns.Respects user call) ⟨start, 0⟩ calls) :
    ∀ watched ∈ Run.states (Watched.step user) ⟨start, 0⟩ calls,
      watched.wrong ≤ globalSigninFailureCap + twoFactorMaxAttempts := by
  have unrecorded : Counter.failures (start.limiter user) opens = 0 := by
    rw [Counter.failures, clean]
    rfl
  have initial : Bounded user opens ⟨start, 0⟩ := by
    refine ⟨?_, Nat.zero_le _, .inl (unrecorded.trans_le (Nat.zero_le _))⟩
    intro counter given
    dsimp only at given
    rw [given] at clean
    have ended := Option.filter_eq_none_iff.mp clean counter rfl
    rw [decide_eq_true_eq, not_lt] at ended
    exact .inl ended
  have bounded := Run.forall_mem_states (fun watched call bounded allowed =>
    bounded_step bounded allowed.2.1 allowed.2.2 allowed.1) initial (respects.and_forall_mem window)
  intro watched reached
  exact (bounded watched reached).recorded.trans (bounded watched reached).capped.le

/-- A sign-in of one user with the right password at the start of the clock. -/
def rightPassword (drawn : Uuid) : Call :=
  .createSession ⟨⟨1⟩, some ⟨some none, true, false⟩, true, drawn, 0⟩

def wrongCode (challengeId : Uuid) : Call :=
  .completeTwoFactorChallenge ⟨challengeId, some false, 0⟩

def untouched : SignIns := ⟨.empty, .empty, .empty⟩

/-- One sign-in with two wrong codes. -/
theorem wrong_le_two :
    (([rightPassword ⟨7⟩, wrongCode ⟨7⟩, wrongCode ⟨7⟩] : List Call).foldl (Watched.step ⟨1⟩)
      ⟨untouched, 0⟩).wrong ≤ globalSigninFailureCap + twoFactorMaxAttempts := by
  refine wrong_le ⟨1⟩ 0 untouched rfl _ ?_ ?_ _ (Run.foldl_mem_states _ _)
  · decide
  · refine ⟨fun _ _ _ _ _ => rfl, ?_, ?_, trivial⟩
    · exact fun _ _ _ _ blocked => absurd blocked (by decide +kernel)
    · exact fun _ _ _ _ blocked => absurd blocked (by decide +kernel)

/-- Twelve sign-ins with five wrong codes each: every password clears the counter. -/
theorem not_wrong_le : ¬∀ (user : Uuid) (opens : Int) (start : SignIns),
    Counter.live (start.limiter user) opens = none → ∀ calls : List Call,
    (∀ call ∈ calls, opens ≤ call.now ∧ call.now < opens + signinWindowSecs * second) →
    (∀ attempt, .createSession attempt ∈ calls → attempt.verified = true) →
    (∀ attempt, .completeTwoFactorChallenge attempt ∈ calls → attempt.accepted = some false) →
    ∀ watched ∈ Run.states (Watched.step user) ⟨start, 0⟩ calls,
      watched.wrong ≤ globalSigninFailureCap + twoFactorMaxAttempts := by
  intro bounded
  have member : ∀ call ∈ (List.range 12).flatMap fun round =>
      rightPassword ⟨round⟩ :: List.replicate 5 (wrongCode ⟨round⟩),
      ∃ round, call = rightPassword ⟨round⟩ ∨ call = wrongCode ⟨round⟩ := by
    intro call inside
    obtain ⟨round, -, made⟩ := List.mem_flatMap.mp inside
    rcases List.mem_cons.mp made with password | code
    · exact ⟨round, .inl password⟩
    · exact ⟨round, .inr (List.eq_of_mem_replicate code)⟩
  have tried := bounded ⟨1⟩ 0 untouched rfl _ ?_ ?_ ?_ _ (Run.foldl_mem_states _
    ((List.range 12).flatMap fun round =>
      rightPassword ⟨round⟩ :: List.replicate 5 (wrongCode ⟨round⟩)))
  · revert tried
    decide +kernel
  · intro call inside
    have window : (0 : Int) ≤ 0 ∧ 0 < 0 + signinWindowSecs * second := by decide
    obtain ⟨round, rfl | rfl⟩ := member call inside
    · exact window
    · exact window
  · intro attempt inside
    obtain ⟨round, same | same⟩ := member _ inside
    · cases same
      rfl
    · cases same
  · intro attempt inside
    obtain ⟨round, same | same⟩ := member _ inside
    · cases same
    · cases same
      rfl

end SignIns

end Chancela
