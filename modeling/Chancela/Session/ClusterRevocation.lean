import Chancela.Crates.Reference
import Chancela.Foundation.Interleave
import Chancela.Session.Frame
import Mathlib.Data.Fintype.Basic

/-! # Revocation across a cluster

Nodes that share one store of sessions. A resolution reads the value of its token there, and
writes it back to slide its expiry; a revocation deletes the key. It is final where it does
delete the key, and no resolution of the token stands between the two commands when it does
(`Chancela.SessionCluster.revoked_everywhere`).
-/

namespace Chancela

open Interleave

variable [Crates]

/-- Nodes and the store they share. -/
structure SessionCluster (ν : Type*) where
  shared : Option RedisSessions
  nodes : ν → SessionNode

/-- The call has authenticated nobody, and is not about to. -/
def SessionStage.denied : SessionStage → Bool
  | .arrived | .resolving _ .dropLive | .resolving _ .dropIssued => true
  | .finished outcome => !outcome.isAuthenticated
  | _ => false

namespace SessionSite

variable {site : SessionSite} {replies : SiteReplies} {token : String} {now expiresAt : Instant}

omit [Crates] in
theorem slides_afterCap {checked : SessionSite × Option Bool} {next : ResolveStep}
    (still : next.slides = false) : (afterCap checked expiresAt next).2.slides = false := by
  unfold afterCap
  split
  · rfl
  · rfl
  · exact still

theorem slides_serveResolve {step : ResolveStep} :
    (site.serveResolve replies token now expiresAt step).2.slides = false := by
  cases step with
  | slideShared value =>
      unfold serveResolve
      dsimp only
      split <;> rfl
  | capShared userId issuedAt => exact slides_afterCap rfl
  | capLocal userId issuedAt => exact slides_afterCap rfl
  | capDurable userId issuedAt => exact slides_afterCap rfl
  | probe =>
      unfold serveResolve
      dsimp only
      split
      · split
        · split <;> rfl
        · rfl
      · rfl
  | slideLocal userId derived =>
      unfold serveResolve
      dsimp only
      split
      · rfl
      · rfl
      · split <;> rfl
  | slideDurable =>
      unfold serveResolve
      dsimp only
      split
      · rfl
      · rfl
      · split <;> rfl
  | readUser userId =>
      unfold serveResolve
      dsimp only
      split
      · split <;> rfl
      · rfl
  | evict step => cases step <;> rfl
  | _ => rfl

theorem eq_evict_of_evicted {step : ResolveStep}
    (evicted : (site.serveResolve replies token now expiresAt step).2 = .finished .evicted) :
    step = .evict .shared := by
  have capped : ∀ {checked : SessionSite × Option Bool} {next : ResolveStep},
      (afterCap checked expiresAt next).2 ≠ .finished .evicted := by
    intro checked next same
    unfold afterCap at same
    split at same <;> cases same
  cases step with
  | evict step =>
      cases step with
      | shared => rfl
      | _ => cases evicted
  | capShared userId issuedAt => exact absurd evicted capped
  | capLocal userId issuedAt => exact absurd evicted capped
  | capDurable userId issuedAt => exact absurd evicted capped
  | probe =>
      unfold serveResolve at evicted
      dsimp only at evicted
      split at evicted
      · split at evicted
        · split at evicted <;> cases evicted
        · cases evicted
      · cases evicted
  | slideLocal userId derived =>
      unfold serveResolve at evicted
      dsimp only at evicted
      split at evicted
      · cases evicted
      · cases evicted
      · split at evicted <;> cases evicted
  | slideDurable =>
      unfold serveResolve at evicted
      dsimp only at evicted
      split at evicted
      · cases evicted
      · cases evicted
      · split at evicted <;> cases evicted
  | readUser userId =>
      unfold serveResolve at evicted
      dsimp only at evicted
      split at evicted
      · split at evicted <;> cases evicted
      · cases evicted
  | _ => cases evicted

theorem lookUpShared_of_unkeyed {redis : RedisSessions} (shared : site.shared = some redis)
    (unkeyed : site.Unkeyed (sessionTokenDigest token)) :
    lookUpShared replies redis token = .dropLive := by
  unfold lookUpShared
  rw [unkeyed redis shared]
  split <;> rfl

theorem sliding_serve {call : SessionCall} {progress : InFlight} {digest : String}
    (unkeyed : site.Unkeyed digest)
    (still : call.sliding digest site.node.boots progress = false) :
    call.sliding digest (site.serve replies call progress).1.node.boots
      (site.serve replies call progress).2 = false := by
  cases call with
  | resolveSessionIdentity token now =>
      by_cases same : sessionTokenDigest token = digest
      · subst same
        have quiet : (site.serve replies (.resolveSessionIdentity token now)
            progress).2.stage.slides = false := by
          have step := served site replies (.resolveSessionIdentity token now) progress
          generalize site.serve replies _ progress = result at step ⊢
          cases step with
          | finished outcome ended =>
              rw [ended]
              rfl
          | begun arrived =>
              unfold begin_
              dsimp only
              split
              · rfl
              · split
                · rfl
                · next redis shared =>
                    rw [lookUpShared_of_unkeyed shared unkeyed]
                    rfl
          | minting token userId now expiresAt step called staged present => cases called
          | resolving token now newExpiresAt step called staged present =>
              exact slides_serveResolve
          | revoking digest byDevice step called staged present => cases byDevice <;> cases called
          | dropped outcome fruitless => rfl
        simp only [SessionCall.sliding, quiet, Bool.and_false, Bool.false_and]
      · simp only [SessionCall.sliding, same, decide_false, Bool.false_and]
  | _ => rfl

theorem denied_serve {progress : InFlight} (joined : site.shared.isSome = true)
    (unkeyed : site.Unkeyed (sessionTokenDigest token)) (denied : progress.stage.denied = true) :
    (site.serve replies (.resolveSessionIdentity token now) progress).2.stage.denied = true := by
  have step := served site replies (.resolveSessionIdentity token now) progress
  generalize site.serve replies _ progress = result at step ⊢
  cases step with
  | finished outcome ended => exact denied
  | begun arrived =>
      unfold begin_
      dsimp only
      split
      · rfl
      · split
        · next alone =>
            rw [alone] at joined
            cases joined
        · next redis shared =>
            rw [lookUpShared_of_unkeyed shared unkeyed]
            rfl
  | minting token userId now expiresAt step called staged present => cases called
  | resolving token now newExpiresAt step called staged present =>
      rw [staged] at denied
      cases step with
      | dropLive => rfl
      | dropIssued => rfl
      | _ => cases denied
  | revoking digest byDevice step called staged present => cases byDevice <;> cases called
  | dropped outcome fruitless => rcases fruitless with rfl | rfl <;> rfl

end SessionSite

namespace SessionCluster

variable {ν : Type*} [DecidableEq ν] {ι : Type*} {calls : ι → SessionCall} {home : ι → ν}

def site (cluster : SessionCluster ν) (node : ν) : SessionSite :=
  ⟨cluster.shared, cluster.nodes node⟩

def serveCalls (calls : ι → SessionCall) (home : ι → ν) (party : ι) (replies : SiteReplies)
    (cluster : SessionCluster ν) (progress : InFlight) : SessionCluster ν × InFlight :=
  let served := (cluster.site (home party)).serve replies (calls party) progress
  (⟨served.1.shared, Function.update cluster.nodes (home party) served.1.node⟩, served.2)

/-- The call slides the value of the digest on the node it runs on. -/
def sliding (calls : ι → SessionCall) (home : ι → ν) (digest : String)
    (world : World (SessionCluster ν) ι InFlight) (party : ι) : Bool :=
  (calls party).sliding digest (world.shared.nodes (home party)).boots (world.progress party)

/-- The shared store holds nothing under the digest, and no call is about to put it back. -/
structure Gone (calls : ι → SessionCall) (home : ι → ν) (digest : String)
    (world : World (SessionCluster ν) ι InFlight) : Prop where
  joined : world.shared.shared.isSome = true
  unkeyed : ∀ redis, world.shared.shared = some redis → redis.values digest = none
  still : ∀ party, sliding calls home digest world party = false

variable [DecidableEq ι] {digest token : String} {now : Instant}

theorem boots_le_turn (world : World (SessionCluster ν) ι InFlight) (move : ι × SiteReplies)
    (node : ν) : (world.shared.nodes node).boots ≤
      ((turn (serveCalls calls home) world move).shared.nodes node).boots := by
  change _ ≤ (Function.update world.shared.nodes (home move.1) _ node).boots
  by_cases here : node = home move.1
  · subst here
    rw [Function.update_self]
    have frame := @SessionSite.serve_frame _ (world.shared.site (home move.1)) move.2
      (calls move.1) (world.progress move.1)
    exact frame.boots
  · rw [Function.update_of_ne here]

variable {world : World (SessionCluster ν) ι InFlight}

theorem sliding_turn_of_ne {move : ι × SiteReplies} {party : ι} (apart : party ≠ move.1)
    (still : sliding calls home digest world party = false) :
    sliding calls home digest (turn (serveCalls calls home) world move) party = false := by
  unfold sliding
  rw [progress_turn_of_ne world move apart]
  exact SessionCall.sliding_of_le still (boots_le_turn world move (home party))

/-- **What is gone stays gone.** -/
theorem Gone.turn (gone : Gone calls home digest world)
    (spares : ∀ party, (calls party).Spares digest) (move : ι × SiteReplies) :
    Gone calls home digest (turn (serveCalls calls home) world move) where
  joined := SessionSite.serve_frame.joined gone.joined
  unkeyed := SessionSite.serve_frame.unkeyed digest (spares move.1) (gone.still move.1) gone.unkeyed
  still party := by
    by_cases same : party = move.1
    · subst same
      unfold sliding
      rw [progress_turn_self]
      change (calls move.1).sliding digest (Function.update world.shared.nodes (home move.1) _
        (home move.1)).boots _ = false
      rw [Function.update_self]
      exact SessionSite.sliding_serve gone.unkeyed (gone.still move.1)
    · exact sliding_turn_of_ne same (gone.still party)

theorem Gone.denied (gone : Gone calls home (sessionTokenDigest token) world)
    (spares : ∀ party, (calls party).Spares (sessionTokenDigest token)) {party : ι}
    (resolves : calls party = .resolveSessionIdentity token now)
    (denied : (world.progress party).stage.denied = true) (moves : List (ι × SiteReplies)) :
    ∀ later ∈ Run.states (Interleave.turn (serveCalls calls home)) world moves,
      (later.progress party).stage.denied = true := by
  have kept : ∀ world move, (Gone calls home (sessionTokenDigest token) world ∧
      (world.progress party).stage.denied = true) →
      Gone calls home (sessionTokenDigest token)
        (Interleave.turn (serveCalls calls home) world move) ∧
        ((Interleave.turn (serveCalls calls home) world move).progress party).stage.denied =
          true := by
    intro world move ⟨gone, denied⟩
    refine ⟨gone.turn spares move, ?_⟩
    by_cases same : party = move.1
    · subst same
      rw [progress_turn_self, serveCalls, resolves]
      exact SessionSite.denied_serve gone.joined gone.unkeyed denied
    · rw [progress_turn_of_ne world move same]
      exact denied
  exact fun later reached =>
    (Run.forall_mem_states_of_kept kept ⟨gone, denied⟩ moves later reached).2

/-- A revocation of a token: by its digest, by its device, or by a resolution that evicts it. -/
def Revokes (token : String) : SessionCall → Prop
  | .revokeDigestEverywhere digest | .revokePairingDevice digest =>
      digest = sessionTokenDigest token
  | .resolveSessionIdentity other _ => other = token
  | _ => False

/-- No resolution is about to write the value of the digest back, if the revocation still
runs. -/
def NobodySlides (calls : ι → SessionCall) (home : ι → ν) (revoker : ι) (digest : String)
    (world : World (SessionCluster ν) ι InFlight) : Prop :=
  (world.progress revoker).boot = (world.shared.nodes (home revoker)).boots →
    ∀ party, sliding calls home digest world party = false

instance decidableNobodySlides [Fintype ι] (revoker : ι)
    (world : World (SessionCluster ν) ι InFlight) :
    Decidable (NobodySlides calls home revoker digest world) :=
  inferInstanceAs (Decidable (_ → _))

/-- What makes a section of the revocation delete the key for good: nobody is about to write it
back, and a revocation by a device finds the token live on its node. -/
def Lasting (calls : ι → SessionCall) (home : ι → ν) (revoker : ι) (token : String)
    (world : World (SessionCluster ν) ι InFlight) : SessionStage → Prop
  | .revoking .delete | .resolving _ (.evict .shared) | .revoking (.deleteEach (_ :: _)) =>
      NobodySlides calls home revoker (sessionTokenDigest token) world
  | .revoking .scan =>
      calls revoker = .revokePairingDevice (sessionTokenDigest token) →
        (world.shared.nodes (home revoker)).sessions.get token ≠ none
  | _ => True

instance decidableLasting [Fintype ι] (revoker : ι)
    (world : World (SessionCluster ν) ι InFlight) :
    (stage : SessionStage) → Decidable (Lasting calls home revoker token world stage)
  | .revoking .delete | .resolving _ (.evict .shared) | .revoking (.deleteEach (_ :: _)) =>
      inferInstanceAs (Decidable (NobodySlides calls home revoker _ world))
  | .revoking .scan => inferInstanceAs (Decidable (_ → _))
  | .resolving _ (.evict .live) | .resolving _ (.evict .issued)
  | .resolving _ (.evict .durable) | .resolving _ (.slideShared _)
  | .resolving _ (.capShared _ _) | .resolving _ (.touchShared _) | .resolving _ .dropLive
  | .resolving _ .dropIssued | .resolving _ .probe | .resolving _ (.slideLocal _ _)
  | .resolving _ (.capLocal _ _) | .resolving _ (.touchLocal _) | .resolving _ .forget
  | .resolving _ .slideDurable | .resolving _ .revokeUnusable | .resolving _ (.capDurable _ _)
  | .resolving _ (.insertLive _) | .resolving _ (.readUser _) | .revoking (.remove _)
  | .revoking (.deleteEach []) | .arrived | .minting _ _ | .finished _ => .isTrue trivial

/-- The next section of the revocation lasts, if it is the revocation's turn. -/
def DeletionLasts (calls : ι → SessionCall) (home : ι → ν) (revoker : ι) (token : String)
    (world : World (SessionCluster ν) ι InFlight) (move : ι × SiteReplies) : Prop :=
  move.1 = revoker → Lasting calls home revoker token world (world.progress revoker).stage

instance decidableDeletionLasts [Fintype ι] (revoker : ι)
    (world : World (SessionCluster ν) ι InFlight) (move : ι × SiteReplies) :
    Decidable (DeletionLasts calls home revoker token world move) :=
  inferInstanceAs (Decidable (_ → _))

def revokedBy : SessionCall → SessionOutcome
  | .resolveSessionIdentity _ _ => .evicted
  | _ => .revoked

/-- What a revocation has achieved, by what it is and how far it has got. -/
def Achieved (calls : ι → SessionCall) (home : ι → ν) (token : String)
    (world : World (SessionCluster ν) ι InFlight) : SessionCall → SessionStage → Prop
  | .resolveSessionIdentity _ _, .finished .evicted
  | .revokePairingDevice _, .finished .revoked
  | .revokeDigestEverywhere _, .finished .revoked
  | .revokeDigestEverywhere _, .revoking .scan
  | .revokeDigestEverywhere _, .revoking (.remove _)
  | .revokeDigestEverywhere _, .revoking (.deleteEach _) =>
      Gone calls home (sessionTokenDigest token) world
  | .revokePairingDevice _, .revoking (.remove tokens) =>
      tokens ≠ [] ∧ ∀ other ∈ tokens, sessionTokenDigest other = sessionTokenDigest token
  | .revokePairingDevice _, .revoking (.deleteEach tokens) =>
      Gone calls home (sessionTokenDigest token) world ∨
        tokens ≠ [] ∧ ∀ other ∈ tokens, sessionTokenDigest other = sessionTokenDigest token
  | _, _ => True

variable {revoker : ι}

theorem gone_of_delete {replies : SiteReplies} (joined : world.shared.shared.isSome = true)
    (reachable : replies.reachable = true)
    (still : ∀ party, sliding calls home digest world party = false)
    (deleted : ((world.shared.site (home revoker)).serve replies (calls revoker)
      (world.progress revoker)).1 = (world.shared.site (home revoker)).deleteShared replies digest)
    (quiet : (calls revoker).sliding digest
      ((world.shared.site (home revoker)).serve replies (calls revoker)
        (world.progress revoker)).1.node.boots
      ((world.shared.site (home revoker)).serve replies (calls revoker)
        (world.progress revoker)).2 = false) :
    Gone calls home digest (turn (serveCalls calls home) world (revoker, replies)) where
  joined := SessionSite.serve_frame.joined joined
  unkeyed := by
    intro redis held
    change ((world.shared.site (home revoker)).serve replies (calls revoker)
      (world.progress revoker)).1.shared = some redis at held
    rw [deleted] at held
    unfold SessionSite.deleteShared SessionSite.mapShared at held
    rw [if_pos reachable] at held
    obtain ⟨before, -, rfl⟩ := Option.map_eq_some_iff.mp held
    exact Keyed.erase_self
  still party := by
    by_cases same : party = revoker
    · subst same
      unfold sliding
      rw [progress_turn_self]
      change (calls party).sliding digest (Function.update world.shared.nodes (home party) _
        (home party)).boots _ = false
      rw [Function.update_self]
      exact quiet
    · exact sliding_turn_of_ne same (still party)

theorem Achieved.turn {call : SessionCall} {stage : SessionStage}
    (achieved : Achieved calls home token world call stage)
    (spares : ∀ party, (calls party).Spares (sessionTokenDigest token)) (move : ι × SiteReplies) :
    Achieved calls home token (turn (serveCalls calls home) world move) call stage := by
  unfold Achieved at achieved ⊢
  split at achieved
  · exact achieved.turn spares move
  · exact achieved.turn spares move
  · exact achieved.turn spares move
  · exact achieved.turn spares move
  · exact achieved.turn spares move
  · exact achieved.turn spares move
  · exact achieved
  · exact achieved.imp_left fun gone => gone.turn spares move
  · trivial

omit [DecidableEq ν] [DecidableEq ι] in
theorem achieved_begin (site : SessionSite) (replies : SiteReplies) {call : SessionCall}
    (revokes : Revokes token call) :
    Achieved calls home token world call (site.begin_ replies call).2 := by
  cases call with
  | revokeDigestEverywhere digest => trivial
  | revokePairingDevice digest =>
      unfold SessionSite.begin_
      dsimp only
      cases (site.node.durableSessions.revokeByDigest digest replies.write).2 <;> trivial
  | resolveSessionIdentity other now =>
      unfold SessionSite.begin_
      dsimp only
      split
      · trivial
      · split <;> trivial
  | _ => exact absurd revokes id

omit [DecidableEq ν] [DecidableEq ι] in
theorem achieved_dropped {call : SessionCall} {outcome : SessionOutcome}
    (fruitless : outcome = .failed ∨ outcome = .lost) :
    Achieved calls home token world call (.finished outcome) := by
  rcases fruitless with rfl | rfl <;> cases call <;> trivial

/-- **What a section of the revocation achieves.** -/
theorem achieved_serve {replies : SiteReplies} (joined : world.shared.shared.isSome = true)
    (reachable : replies.reachable = true) (revokes : Revokes token (calls revoker))
    (spares : ∀ party, (calls party).Spares (sessionTokenDigest token))
    (lasts : Lasting calls home revoker token world (world.progress revoker).stage)
    (achieved : Achieved calls home token world (calls revoker) (world.progress revoker).stage) :
    Achieved calls home token (turn (serveCalls calls home) world (revoker, replies))
      (calls revoker) ((world.shared.site (home revoker)).serve replies (calls revoker)
        (world.progress revoker)).2.stage := by
  have still := achieved.turn spares (revoker, replies)
  have gone := @gone_of_delete _ ν _ ι calls home _ (sessionTokenDigest token) world revoker
    replies joined reachable
  have step := (world.shared.site (home revoker)).served replies (calls revoker)
    (world.progress revoker)
  generalize (world.shared.site (home revoker)).serve replies (calls revoker)
    (world.progress revoker) = result at step gone ⊢
  cases step with
  | finished outcome ended => exact still
  | begun arrived => exact achieved_begin _ replies revokes
  | dropped outcome fruitless => exact achieved_dropped fruitless
  | minting other userId now expiresAt step called staged present =>
      rw [called] at revokes
      exact absurd revokes id
  | resolving other asked newExpiresAt step called staged present =>
      rw [called] at revokes gone ⊢
      obtain rfl : other = token := revokes
      by_cases evicted : ((world.shared.site (home revoker)).serveResolve replies other asked
          newExpiresAt step).2 = .finished .evicted
      · obtain rfl := SessionSite.eq_evict_of_evicted evicted
        rw [staged] at lasts
        exact gone (lasts present) rfl (by
          simp only [SessionCall.sliding, evicted, SessionStage.slides, Bool.and_false,
            Bool.false_and])
      · unfold Achieved
        split
        · next ended => exact absurd ended evicted
        all_goals trivial
  | revoking digest byDevice step called staged present =>
      rw [staged, called] at still
      rw [staged] at lasts
      have asked := called
      rw [called] at revokes gone ⊢
      cases byDevice with
      | false =>
          obtain rfl : digest = sessionTokenDigest token := revokes
          cases step with
          | delete => exact gone (lasts present) rfl rfl
          | scan =>
              unfold SessionSite.serveRevoke
              dsimp only
              cases (world.shared.site (home revoker)).tokensOf (sessionTokenDigest token) with
              | nil => exact still
              | cons first rest => exact still
          | remove tokens => exact still
          | deleteEach tokens =>
              cases tokens with
              | nil => exact still
              | cons first rest => exact still
      | true =>
          obtain rfl : digest = sessionTokenDigest token := revokes
          cases step with
          | delete => trivial
          | scan =>
              unfold SessionSite.serveRevoke
              dsimp only
              have listed := @SessionSite.digest_of_mem_tokensOf _
                (world.shared.site (home revoker)) (sessionTokenDigest token)
              cases found : (world.shared.site (home revoker)).tokensOf
                  (sessionTokenDigest token) with
              | nil =>
                  have missing : (world.shared.site (home revoker)).Absent token := by
                    apply SessionSite.absent_of_notMem_tokensOf
                    rw [found]
                    exact List.not_mem_nil
                  exact absurd missing (lasts asked)
              | cons first rest =>
                  rw [found] at listed
                  exact ⟨List.cons_ne_nil first rest, fun other => listed⟩
          | remove tokens => exact .inr still
          | deleteEach tokens =>
              cases tokens with
              | nil => exact still.resolve_right fun both => both.1 rfl
              | cons first tokens =>
                  rcases still with before | ⟨-, named⟩
                  · exact .inl before
                  · have same := named first List.mem_cons_self
                    refine .inl (gone (lasts present) ?_ rfl)
                    change (world.shared.site (home revoker)).deleteShared replies
                      (sessionTokenDigest first) = _
                    rw [same]

/-- **Revocation is final across the cluster.** Where its deletion lasts, a revocation that has
returned leaves the token dead on every node: no resolution that begins after it
authenticates. -/
theorem revoked_everywhere {start : World (SessionCluster ν) ι InFlight}
    (joined : start.shared.shared.isSome = true)
    (arrived : ∀ party, (start.progress party).stage = .arrived)
    (revokes : Revokes token (calls revoker))
    (spares : ∀ party, (calls party).Spares (sessionTokenDigest token))
    (moves : List (ι × SiteReplies)) (reachable : ∀ move ∈ moves, move.2.reachable = true)
    (lasts : Run.Admissible (turn (serveCalls calls home))
      (DeletionLasts calls home revoker token) start moves) :
    ∀ world ∈ Run.states (turn (serveCalls calls home)) start moves,
      (world.progress revoker).stage = .finished (revokedBy (calls revoker)) →
        ∀ party now, calls party = .resolveSessionIdentity token now →
          (world.progress party).stage = .arrived →
          ∀ further, ∀ later ∈ Run.states (turn (serveCalls calls home)) world further,
            ∀ userId username,
              (later.progress party).stage ≠ .finished (.authenticated userId username) := by
  have kept : ∀ world move,
      (world.shared.shared.isSome = true ∧
        Achieved calls home token world (calls revoker) (world.progress revoker).stage) →
      (DeletionLasts calls home revoker token world move ∧ move.2.reachable = true) →
      (turn (serveCalls calls home) world move).shared.shared.isSome = true ∧
        Achieved calls home token (turn (serveCalls calls home) world move) (calls revoker)
          ((turn (serveCalls calls home) world move).progress revoker).stage := by
    intro world move ⟨joined, achieved⟩ ⟨lasts, reachable⟩
    refine ⟨SessionSite.serve_frame.joined joined, ?_⟩
    obtain ⟨party, replies⟩ := move
    by_cases same : party = revoker
    · subst same
      rw [progress_turn_self]
      exact achieved_serve joined reachable revokes spares (lasts rfl) achieved
    · rw [progress_turn_of_ne world (party, replies) (Ne.symm same)]
      exact achieved.turn spares (party, replies)
  have initial : start.shared.shared.isSome = true ∧
      Achieved calls home token start (calls revoker) (start.progress revoker).stage := by
    refine ⟨joined, ?_⟩
    rw [arrived revoker]
    cases calls revoker <;> trivial
  intro world reached returned party now resolves waits further later met userId username found
  have achieved := (Run.forall_mem_states kept initial (lasts.and_forall_mem reachable) world
    reached).2
  rw [returned] at achieved
  have gone : Gone calls home (sessionTokenDigest token) world := by
    cases called : calls revoker with
    | revokeDigestEverywhere digest =>
        rw [called] at achieved
        exact achieved
    | revokePairingDevice digest =>
        rw [called] at achieved
        exact achieved
    | resolveSessionIdentity other now =>
        rw [called] at achieved
        exact achieved
    | _ =>
        rw [called] at revokes
        exact absurd revokes id
  have denied := gone.denied spares resolves (by rw [waits]; rfl) further later met
  rw [found] at denied
  cases denied

end SessionCluster

end Chancela

namespace Chancela.SessionCluster

open Interleave
open scoped Reference

def sharedValue : RedisSessionValue := ⟨⟨1#128⟩, 1770000000, 0, 1770000000⟩

/-- A node without durable sessions that has not met the session yet. -/
def freshNode : SessionNode where
  sessions := Table.empty
  sessionIssuedAt := Keyed.empty
  durableSessions := ⟨false, Table.empty, none⟩
  users := Keyed.empty.insert ⟨1#128⟩ ⟨"amelia", true⟩
  sessionMaxLifetime := 604800
  boots := 0

/-- Two such nodes, and a session in the store they share. -/
def twoNodes : SessionCluster Bool :=
  ⟨some ⟨Keyed.empty.insert (sessionTokenDigest "t") sharedValue, none⟩, fun _ => freshNode⟩

def revokeOnce (revocation : SessionCall) : Fin 3 → SessionCall
  | 0 => revocation
  | _ => .resolveSessionIdentity "t" ⟨1770000060000000000, 0, by decide⟩

def apartFrom (party : Fin 3) : Bool := party = 0

def allArrive : World (SessionCluster Bool) (Fin 3) InFlight := ⟨twoNodes, fun _ => ⟨0, .arrived⟩⟩

/-- The next sections of the parties, in this order, with every command answered. -/
def inTurn (parties : List (Fin 3)) : List (Fin 3 × SiteReplies) :=
  parties.map fun party => (party, ⟨.done, true, 1770000060, true⟩)

/-- The sections of the calls of these parties, one of them a revocation. -/
def clusterTurn (revocation : SessionCall) :
    World (SessionCluster Bool) (Fin 3) InFlight → Fin 3 × SiteReplies →
      World (SessionCluster Bool) (Fin 3) InFlight :=
  turn (serveCalls (revokeOnce revocation) apartFrom)

def byDigest : SessionCall := .revokeDigestEverywhere (sessionTokenDigest "t")

def byDevice : SessionCall := .revokePairingDevice (sessionTokenDigest "t")

/-- A revocation by digest with no resolution under way is final. -/
theorem revoked_everywhere_alone :
    ((((inTurn [0, 0, 0]).foldl (clusterTurn byDigest) allArrive).progress 0).stage =
      .finished .revoked) ∧
    (((inTurn [1, 1, 1]).foldl (clusterTurn byDigest)
      ((inTurn [0, 0, 0]).foldl (clusterTurn byDigest) allArrive)).progress 1).stage ≠
        .finished (.authenticated ⟨1#128⟩ "amelia") := by
  have returned : (((inTurn [0, 0, 0]).foldl (clusterTurn byDigest) allArrive).progress
      0).stage = .finished .revoked := by decide +kernel
  have waits : (((inTurn [0, 0, 0]).foldl (clusterTurn byDigest) allArrive).progress
      1).stage = .arrived := by decide +kernel
  have spares : ∀ party, (revokeOnce byDigest party).Spares (sessionTokenDigest "t") := by
    intro party
    unfold revokeOnce
    split <;> trivial
  have reachable : ∀ move ∈ inTurn [0, 0, 0], move.2.reachable = true := by
    intro move listed
    obtain ⟨party, -, rfl⟩ := List.mem_map.mp listed
    rfl
  have lasts : Run.Admissible (clusterTurn byDigest)
      (DeletionLasts (revokeOnce byDigest) apartFrom 0 "t") allArrive (inTurn [0, 0, 0]) := by
    decide +kernel
  have final := @revoked_everywhere _ Bool _ (Fin 3) (revokeOnce byDigest) apartFrom _ "t" 0
    allArrive rfl (fun _ => rfl) rfl spares (inTurn [0, 0, 0]) reachable lasts
  exact ⟨returned, final _ (Run.foldl_mem_states _ _) returned 1 _ rfl waits (inTurn [1, 1, 1]) _
    (Run.foldl_mem_states _ _) _ _⟩

/-- Finality of one revocation among two resolutions, whatever their order. -/
def FinalFor (revocation : SessionCall) : Prop :=
  ∀ (start : World (SessionCluster Bool) (Fin 3) InFlight),
    start.shared.shared.isSome = true → (∀ party, (start.progress party).stage = .arrived) →
    ∀ moves, (∀ move ∈ moves, move.2.reachable = true) →
    ∀ world ∈ Run.states (clusterTurn revocation) start moves,
      (world.progress 0).stage = .finished .revoked →
      ((world.progress 1).stage = .arrived ∨
        ∃ outcome, (world.progress 1).stage = .finished outcome) →
      (world.progress 2).stage = .arrived →
      ∀ further, (∀ move ∈ further, move.2.reachable = true) →
      ∀ later ∈ Run.states (clusterTurn revocation) world further, ∀ userId username,
        (later.progress 2).stage ≠ .finished (.authenticated userId username)

theorem not_finalFor {revocation : SessionCall} {moves : List (Fin 3)}
    (returned : (((inTurn moves).foldl (clusterTurn revocation) allArrive).progress 0).stage =
      .finished .revoked)
    (settled : (((inTurn moves).foldl (clusterTurn revocation) allArrive).progress 1).stage =
        .arrived ∨
      ∃ outcome, (((inTurn moves).foldl (clusterTurn revocation) allArrive).progress 1).stage =
        .finished outcome)
    (waits : (((inTurn moves).foldl (clusterTurn revocation) allArrive).progress 2).stage =
      .arrived)
    (found : (((inTurn [2, 2, 2, 2, 2]).foldl (clusterTurn revocation)
      ((inTurn moves).foldl (clusterTurn revocation) allArrive)).progress 2).stage =
        .finished (.authenticated ⟨1#128⟩ "amelia")) :
    ¬FinalFor revocation := by
  intro final
  have reachable : ∀ parties, ∀ move ∈ inTurn parties, move.2.reachable = true := by
    intro parties move listed
    obtain ⟨party, -, rfl⟩ := List.mem_map.mp listed
    rfl
  exact final allArrive rfl (fun _ => rfl) (inTurn moves) (reachable moves) _
    (Run.foldl_mem_states _ _) returned settled waits (inTurn [2, 2, 2, 2, 2])
    (reachable [2, 2, 2, 2, 2]) _ (Run.foldl_mem_states _ _) _ _ found

/-- A resolution that has read the value before a revocation deletes it writes it back, and a
revocation by a device deletes nothing from a node that has never met the session. -/
theorem not_revoked_everywhere : ¬FinalFor byDigest ∧ ¬FinalFor byDevice := by
  constructor
  · apply @not_finalFor byDigest [1, 0, 0, 0, 1, 1, 1, 1]
    · decide +kernel
    · exact .inr ⟨.authenticated ⟨1#128⟩ "amelia", by decide +kernel⟩
    · decide +kernel
    · decide +kernel
  · apply @not_finalFor byDevice [0, 0]
    · decide +kernel
    · exact .inl (by decide +kernel)
    · decide +kernel
    · decide +kernel

end Chancela.SessionCluster
