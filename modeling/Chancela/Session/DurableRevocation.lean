import Chancela.Crates.Reference
import Chancela.Foundation.Interleave
import Chancela.Session.Frame
import Mathlib.Data.Fintype.Basic

/-! # Revocation on a single durable node

What becomes of a token once a revocation has reported success, on a node that shares no store.
The revocation takes the durable record first and the live session after it. It is final where
its write succeeds, and no resolution that has slid the record is still to enter it among the
live sessions (`Chancela.SessionSite.revoked_final`).
-/

namespace Chancela

open Interleave

variable [Crates]

/-- The section may still find the token, and has not found it yet. -/
def ResolveStep.searches : ResolveStep → Bool
  | .probe | .forget | .slideDurable | .dropLive | .dropIssued | .revokeUnusable | .evict _ => true
  | _ => false

/-- The call has authenticated nobody, and holds nothing that would. -/
def SessionStage.unproven : SessionStage → Bool
  | .arrived => true
  | .resolving _ step => step.searches
  | .finished outcome => !outcome.isAuthenticated
  | _ => true

namespace SessionSite

variable {site : SessionSite} {replies : SiteReplies} {token digest : String}
  {now expiresAt : Instant}

/-- A node alone, without a record of a digest in memory or in the file. -/
structure Cleared (site : SessionSite) (digest : String) : Prop where
  alone : site.shared = none
  lacks : site.node.durableSessions.Lacks digest

theorem Cleared.serve {call : SessionCall} {progress : InFlight} (cleared : site.Cleared digest)
    (spares : call.Spares digest) : (site.serve replies call progress).1.Cleared digest :=
  ⟨serve_frame.alone cleared.alone, serve_frame.lacks digest spares cleared.lacks⟩

omit [Crates] in
theorem enters_afterCap {checked : SessionSite × Option Bool} {next : ResolveStep}
    (searching : next.enters = false) : (afterCap checked expiresAt next).2.enters = false := by
  unfold afterCap
  split
  · rfl
  · rfl
  · exact searching

theorem enters_serveResolve {step : ResolveStep} (cleared : site.Cleared (sessionTokenDigest token))
    (searching : step.enters = false) :
    (site.serveResolve replies token now expiresAt step).2.enters = false := by
  cases step with
  | slideShared value => cases searching
  | capShared userId issuedAt => cases searching
  | touchShared userId => cases searching
  | capDurable userId issuedAt => cases searching
  | insertLive userId => cases searching
  | capLocal userId issuedAt => exact enters_afterCap rfl
  | probe =>
      unfold serveResolve
      dsimp only
      split
      · split
        · split <;> rfl
        · rfl
      · rfl
  | slideLocal userId derived =>
      unfold serveResolve
      dsimp only
      split
      · rfl
      · rfl
      · split <;> rfl
  | slideDurable =>
      unfold serveResolve
      dsimp only
      rw [cleared.lacks.resolveAndSlide_absent]
      rfl
  | readUser userId =>
      unfold serveResolve
      dsimp only
      split
      · split <;> rfl
      · rfl
  | evict step => cases step <;> rfl
  | _ => rfl

theorem unproven_serveResolve {step : ResolveStep}
    (cleared : site.Cleared (sessionTokenDigest token)) (absent : site.Absent token)
    (searching : step.searches = true) :
    (site.serveResolve replies token now expiresAt step).2.unproven = true := by
  cases step with
  | probe =>
      unfold serveResolve
      dsimp only
      rw [absent]
      rfl
  | slideDurable =>
      unfold serveResolve
      dsimp only
      rw [cleared.lacks.resolveAndSlide_absent]
      rfl
  | forget => rfl
  | dropLive => rfl
  | dropIssued => rfl
  | revokeUnusable => rfl
  | evict step => cases step <;> rfl
  | slideShared value => cases searching
  | capShared userId issuedAt => cases searching
  | touchShared userId => cases searching
  | slideLocal userId derived => cases searching
  | capLocal userId issuedAt => cases searching
  | touchLocal userId => cases searching
  | capDurable userId issuedAt => cases searching
  | insertLive userId => cases searching
  | readUser userId => cases searching

theorem entering_serve {call : SessionCall} {progress : InFlight}
    (cleared : site.Cleared (sessionTokenDigest token))
    (free : call.entering token site.node.boots progress = false) :
    call.entering token (site.serve replies call progress).1.node.boots
      (site.serve replies call progress).2 = false := by
  cases call with
  | resolveSessionIdentity other now =>
      by_cases same : other = token
      · subst same
        have searching : (site.serve replies (.resolveSessionIdentity other now)
            progress).2.stage.enters = false := by
          have step := served site replies (.resolveSessionIdentity other now) progress
          generalize site.serve replies _ progress = result at step ⊢
          cases step with
          | finished outcome ended =>
              rw [ended]
              rfl
          | begun arrived =>
              unfold begin_
              dsimp only
              split
              · rfl
              · rw [cleared.alone]
                rfl
          | minting token userId now expiresAt step called staged present => cases called
          | resolving token asked newExpiresAt step called staged present =>
              obtain ⟨rfl, rfl⟩ := SessionCall.resolveSessionIdentity.inj called
              apply enters_serveResolve cleared
              simpa only [SessionCall.entering, decide_true, Bool.true_and, staged,
                SessionStage.enters, present, le_refl, Bool.and_true] using free
          | revoking digest byDevice step called staged present => cases byDevice <;> cases called
          | dropped outcome fruitless => rfl
        simp only [SessionCall.entering, searching, Bool.and_false, Bool.false_and]
      · simp only [SessionCall.entering, same, decide_false, Bool.false_and]
  | _ => rfl

theorem unproven_serve {progress : InFlight} (cleared : site.Cleared (sessionTokenDigest token))
    (absent : site.Absent token) (unproven : progress.stage.unproven = true) :
    (site.serve replies (.resolveSessionIdentity token now) progress).2.stage.unproven = true := by
  have step := served site replies (.resolveSessionIdentity token now) progress
  generalize site.serve replies _ progress = result at step ⊢
  cases step with
  | finished outcome ended => exact unproven
  | begun arrived =>
      unfold begin_
      dsimp only
      split
      · rfl
      · rw [cleared.alone]
        rfl
  | minting token userId now expiresAt step called staged present => cases called
  | resolving token asked newExpiresAt step called staged present =>
      obtain ⟨rfl, rfl⟩ := SessionCall.resolveSessionIdentity.inj called
      rw [staged] at unproven
      exact unproven_serveResolve cleared absent unproven
  | revoking digest byDevice step called staged present => cases byDevice <;> cases called
  | dropped outcome fruitless => rcases fruitless with rfl | rfl <;> rfl

end SessionSite

def serveCalls {ι : Type*} (calls : ι → SessionCall) (party : ι) (replies : SiteReplies)
    (site : SessionSite) (progress : InFlight) : SessionSite × InFlight :=
  site.serve replies (calls party) progress

namespace SessionSite

variable {ι : Type*} [DecidableEq ι] {calls : ι → SessionCall} {token : String} {now : Instant}

/-- The token is in neither the live sessions nor the registry, and no call is about to put it
there. -/
structure Gone (calls : ι → SessionCall) (token : String) (world : World SessionSite ι InFlight) :
    Prop where
  cleared : world.shared.Cleared (sessionTokenDigest token)
  absent : world.shared.Absent token
  free : ∀ party,
    (calls party).entering token world.shared.node.boots (world.progress party) = false

variable {world : World SessionSite ι InFlight}

/-- **What is gone stays gone.** -/
theorem Gone.turn (gone : Gone calls token world)
    (spares : ∀ party, (calls party).Spares (sessionTokenDigest token)) (move : ι × SiteReplies) :
    Gone calls token (turn (serveCalls calls) world move) where
  cleared := gone.cleared.serve (spares move.1)
  absent := serve_frame.absent token (spares move.1) (gone.free move.1) gone.absent
  free party := by
    by_cases same : party = move.1
    · subst same
      rw [progress_turn_self]
      exact entering_serve gone.cleared (gone.free move.1)
    · rw [progress_turn_of_ne world move same]
      exact SessionCall.entering_of_le (gone.free party) serve_frame.boots

theorem Gone.unproven (gone : Gone calls token world)
    (spares : ∀ party, (calls party).Spares (sessionTokenDigest token)) {party : ι}
    (resolves : calls party = .resolveSessionIdentity token now)
    (unproven : (world.progress party).stage.unproven = true) (moves : List (ι × SiteReplies)) :
    ∀ later ∈ Run.states (Interleave.turn (serveCalls calls)) world moves,
      (later.progress party).stage.unproven = true := by
  have kept : ∀ world move, (Gone calls token world ∧
      (world.progress party).stage.unproven = true) →
      Gone calls token (Interleave.turn (serveCalls calls) world move) ∧
        ((Interleave.turn (serveCalls calls) world move).progress party).stage.unproven = true := by
    intro world move ⟨gone, unproven⟩
    refine ⟨gone.turn spares move, ?_⟩
    by_cases same : party = move.1
    · subst same
      rw [progress_turn_self, serveCalls, resolves]
      exact unproven_serve gone.cleared gone.absent unproven
    · rw [progress_turn_of_ne world move same]
      exact unproven
  exact fun later reached =>
    (Run.forall_mem_states_of_kept kept ⟨gone, unproven⟩ moves later reached).2

/-- No call is about to enter the token, if the revocation still runs. -/
def NobodyEnters (calls : ι → SessionCall) (revoker : ι) (token : String)
    (world : World SessionSite ι InFlight) : Prop :=
  (world.progress revoker).boot = world.shared.node.boots → ∀ party,
    (calls party).entering token world.shared.node.boots (world.progress party) = false

instance decidableNobodyEnters [Fintype ι] (revoker : ι)
    (world : World SessionSite ι InFlight) :
    Decidable (NobodyEnters calls revoker token world) :=
  inferInstanceAs (Decidable (_ → _))

/-- What makes the removal by a section of the revocation last: the durable record is dropped
from memory and file, and where the token is not live any more no call is about to enter it. -/
def Lasting (calls : ι → SessionCall) (revoker : ι) (token : String)
    (world : World SessionSite ι InFlight) (write : DiskWrite) : SessionStage → Prop
  | .arrived =>
      let registry := world.shared.node.durableSessions
      registry.durable = true ∧
        (registry.records.get (sessionTokenDigest token) = none →
          registry.inFile (sessionTokenDigest token) = false) ∧
        (calls revoker = .revokeDigestEverywhere (sessionTokenDigest token) →
          registry.records.get (sessionTokenDigest token) ≠ none → write = .done)
  | .revoking .scan =>
      world.shared.node.sessions.get token = none → NobodyEnters calls revoker token world
  | .revoking (.remove _) => NobodyEnters calls revoker token world
  | _ => True

instance decidableLasting [Fintype ι] (revoker : ι) (world : World SessionSite ι InFlight)
    (write : DiskWrite) : (stage : SessionStage) →
    Decidable (Lasting calls revoker token world write stage)
  | .arrived => inferInstanceAs (Decidable (_ ∧ _ ∧ _))
  | .revoking .scan => inferInstanceAs (Decidable (_ → _))
  | .revoking (.remove _) =>
      inferInstanceAs (Decidable (NobodyEnters calls revoker token world))
  | .revoking .delete | .revoking (.deleteEach _) | .minting _ _ | .resolving _ _ | .finished _ =>
      .isTrue trivial

/-- The next section of the revocation lasts, if it is the revocation's turn. -/
def RemovalLasts (calls : ι → SessionCall) (revoker : ι) (token : String)
    (world : World SessionSite ι InFlight) (move : ι × SiteReplies) : Prop :=
  move.1 = revoker → Lasting calls revoker token world move.2.write (world.progress revoker).stage

instance decidableRemovalLasts [Fintype ι] (revoker : ι) (world : World SessionSite ι InFlight)
    (move : ι × SiteReplies) : Decidable (RemovalLasts calls revoker token world move) :=
  inferInstanceAs (Decidable (_ → _))

/-- What the revocation has achieved, by how far it has got. -/
def Achieved (calls : ι → SessionCall) (token : String) (world : World SessionSite ι InFlight) :
    SessionStage → Prop
  | .revoking .delete | .revoking .scan => world.shared.Cleared (sessionTokenDigest token)
  | .revoking (.remove tokens) =>
      world.shared.Cleared (sessionTokenDigest token) ∧ (token ∈ tokens ∨ Gone calls token world)
  | .revoking (.deleteEach _) | .finished .revoked => Gone calls token world
  | _ => True

variable {revoker : ι}

omit [DecidableEq ι] in
theorem Gone.achieved (gone : Gone calls token world) (stage : SessionStage) :
    Achieved calls token world stage := by
  unfold Achieved
  split
  · exact gone.cleared
  · exact gone.cleared
  · exact ⟨gone.cleared, .inr gone⟩
  · exact gone
  · exact gone
  · trivial

theorem Achieved.turn {stage : SessionStage} (achieved : Achieved calls token world stage)
    (spares : ∀ party, (calls party).Spares (sessionTokenDigest token)) (move : ι × SiteReplies) :
    Achieved calls token (turn (serveCalls calls) world move) stage := by
  unfold Achieved at achieved ⊢
  split at achieved
  · exact achieved.serve (spares move.1)
  · exact achieved.serve (spares move.1)
  · exact ⟨achieved.1.serve (spares move.1), achieved.2.imp id fun gone => gone.turn spares move⟩
  · exact achieved.turn spares move
  · exact achieved.turn spares move
  · trivial

omit [Crates] [DecidableEq ι] in
theorem entering_revocation {progress : InFlight} {boots : Nat} {digest : String}
    (revokes : calls revoker = .revokeDigestEverywhere digest ∨
      calls revoker = .revokePairingDevice digest) :
    (calls revoker).entering token boots progress = false := by
  rcases revokes with named | named
  · rw [named]
    rfl
  · rw [named]
    rfl

omit [DecidableEq ι] in
theorem achieved_begin {replies : SiteReplies} {after : World SessionSite ι InFlight}
    (revokes : calls revoker = .revokeDigestEverywhere (sessionTokenDigest token) ∨
      calls revoker = .revokePairingDevice (sessionTokenDigest token))
    (arrived : (world.progress revoker).stage = .arrived) (alone : world.shared.shared = none)
    (lasts : RemovalLasts calls revoker token world (revoker, replies))
    (moved : after.shared = (world.shared.begin_ replies (calls revoker)).1) :
    Achieved calls token after (world.shared.begin_ replies (calls revoker)).2 := by
  have met := lasts rfl
  rw [arrived] at met
  obtain ⟨durable, stale, held⟩ := met
  have clears : (world.shared.node.durableSessions.records.get (sessionTokenDigest token) ≠ none →
      replies.write = .done) →
      (world.shared.setDurable (world.shared.node.durableSessions.revokeByDigest
        (sessionTokenDigest token) replies.write).1).Cleared (sessionTokenDigest token) := by
    intro written
    exact ⟨alone, DurableSessionRegistry.lacks_revokeByDigest durable written fun found =>
      DurableSessionRegistry.inFile_eq_false.mp (stale found)⟩
  rcases revokes with named | named
  · rw [named] at moved ⊢
    unfold Achieved begin_
    dsimp only
    rw [moved]
    exact clears (held named)
  · rw [named] at moved ⊢
    unfold begin_
    dsimp only
    split
    · next reported =>
        unfold Achieved
        dsimp only
        rw [moved]
        exact clears (DurableSessionRegistry.revokeByDigest_done reported durable)
    · trivial

theorem achieved_serveRevoke {replies : SiteReplies} {step : RevokeStep} {byDevice : Bool}
    (revokes : calls revoker = .revokeDigestEverywhere (sessionTokenDigest token) ∨
      calls revoker = .revokePairingDevice (sessionTokenDigest token))
    (spares : ∀ party, (calls party).Spares (sessionTokenDigest token))
    (lasts : RemovalLasts calls revoker token world (revoker, replies))
    (staged : (world.progress revoker).stage = .revoking step)
    (present : (world.progress revoker).boot = world.shared.node.boots)
    (achieved : Achieved calls token world (.revoking step))
    (moved : (turn (serveCalls calls) world (revoker, replies)).shared =
      (world.shared.serveRevoke replies (sessionTokenDigest token) byDevice step).1) :
    Achieved calls token (turn (serveCalls calls) world (revoker, replies))
      (world.shared.serveRevoke replies (sessionTokenDigest token) byDevice step).2 := by
  have still := achieved.turn spares (revoker, replies)
  have met := lasts rfl
  rw [staged] at met
  cases step with
  | delete => exact still
  | scan =>
      have gone : world.shared.Absent token → Gone calls token world := fun absent =>
        ⟨achieved, absent, met absent present⟩
      unfold serveRevoke
      dsimp only
      split
      · next nobody =>
          apply Gone.achieved
          apply Gone.turn _ spares
          apply gone
          apply absent_of_notMem_tokensOf
          rw [nobody]
          exact List.not_mem_nil
      · next first tokens found =>
          refine ⟨still, ?_⟩
          by_cases listed : token ∈ world.shared.tokensOf (sessionTokenDigest token)
          · rw [found] at listed
            exact .inl listed
          · exact .inr ((gone (absent_of_notMem_tokensOf listed)).turn spares (revoker, replies))
  | remove tokens =>
      have gone : Gone calls token (turn (serveCalls calls) world (revoker, replies)) := by
        rcases achieved.2 with listed | gone
        · refine ⟨still.1, ?_, fun party => ?_⟩
          · rw [moved]
            exact absent_removeTokens listed
          · by_cases same : party = revoker
            · subst same
              exact entering_revocation revokes
            · rw [progress_turn_of_ne world (revoker, replies) same]
              exact SessionCall.entering_of_le (met present party) serve_frame.boots
        · exact gone.turn spares (revoker, replies)
      exact gone.achieved _
  | deleteEach tokens =>
      exact Gone.achieved still _

/-- **What a section of the revocation achieves.** -/
theorem achieved_serve {replies : SiteReplies}
    (revokes : calls revoker = .revokeDigestEverywhere (sessionTokenDigest token) ∨
      calls revoker = .revokePairingDevice (sessionTokenDigest token))
    (spares : ∀ party, (calls party).Spares (sessionTokenDigest token))
    (alone : world.shared.shared = none)
    (lasts : RemovalLasts calls revoker token world (revoker, replies))
    (achieved : Achieved calls token world (world.progress revoker).stage) :
    Achieved calls token (turn (serveCalls calls) world (revoker, replies))
      (world.shared.serve replies (calls revoker) (world.progress revoker)).2.stage := by
  have moved : (turn (serveCalls calls) world (revoker, replies)).shared =
      (world.shared.serve replies (calls revoker) (world.progress revoker)).1 := rfl
  have step := served world.shared replies (calls revoker) (world.progress revoker)
  generalize world.shared.serve replies (calls revoker) (world.progress revoker) = result
    at step moved ⊢
  cases step with
  | finished outcome ended => exact achieved.turn spares (revoker, replies)
  | begun arrived => exact achieved_begin revokes arrived alone lasts moved
  | minting token userId now expiresAt step called staged present =>
      rw [called] at revokes
      rcases revokes with same | same <;> cases same
  | resolving token now newExpiresAt step called staged present =>
      rw [called] at revokes
      rcases revokes with same | same <;> cases same
  | revoking digest byDevice step called staged present =>
      rw [staged] at achieved
      have named : digest = sessionTokenDigest token := by
        rw [called] at revokes
        cases byDevice <;> rcases revokes with same | same <;> cases same <;> rfl
      subst named
      exact achieved_serveRevoke revokes spares lasts staged present achieved moved
  | dropped outcome fruitless => rcases fruitless with rfl | rfl <;> trivial

/-- **Revocation on one durable node is final.** Where its removal lasts, a revocation that has
reported success leaves the token in neither the live sessions nor the registry, for good, and
no resolution that begins after it authenticates the token. -/
theorem revoked_final {start : World SessionSite ι InFlight} (alone : start.shared.shared = none)
    (arrived : ∀ party, (start.progress party).stage = .arrived)
    (revokes : calls revoker = .revokeDigestEverywhere (sessionTokenDigest token) ∨
      calls revoker = .revokePairingDevice (sessionTokenDigest token))
    (spares : ∀ party, (calls party).Spares (sessionTokenDigest token))
    (moves : List (ι × SiteReplies))
    (lasts :
      Run.Admissible (turn (serveCalls calls)) (RemovalLasts calls revoker token) start moves) :
    ∀ world ∈ Run.states (turn (serveCalls calls)) start moves,
      (world.progress revoker).stage = .finished .revoked →
        world.shared.Absent token ∧
        world.shared.node.durableSessions.Lacks (sessionTokenDigest token) ∧
        ∀ party now, calls party = .resolveSessionIdentity token now →
          (world.progress party).stage = .arrived →
          ∀ further, ∀ later ∈ Run.states (turn (serveCalls calls)) world further,
            ∀ userId username,
              (later.progress party).stage ≠ .finished (.authenticated userId username) := by
  have kept : ∀ world move,
      (world.shared.shared = none ∧ Achieved calls token world (world.progress revoker).stage) →
      RemovalLasts calls revoker token world move →
      (turn (serveCalls calls) world move).shared.shared = none ∧
        Achieved calls token (turn (serveCalls calls) world move)
          ((turn (serveCalls calls) world move).progress revoker).stage := by
    intro world move ⟨alone, achieved⟩ lasts
    refine ⟨serve_frame.alone alone, ?_⟩
    obtain ⟨party, replies⟩ := move
    by_cases same : party = revoker
    · subst same
      rw [progress_turn_self]
      exact achieved_serve revokes spares alone lasts achieved
    · rw [progress_turn_of_ne world (party, replies) (Ne.symm same)]
      exact achieved.turn spares (party, replies)
  have initial : start.shared.shared = none ∧
      Achieved calls token start (start.progress revoker).stage := by
    rw [arrived revoker]
    exact ⟨alone, trivial⟩
  intro world reached reported
  have achieved := (Run.forall_mem_states kept initial lasts world reached).2
  rw [reported] at achieved
  have gone : Gone calls token world := achieved
  refine ⟨gone.absent, gone.cleared.lacks, fun party now resolves waits further later met => ?_⟩
  have unproven := gone.unproven spares resolves (by rw [waits]; rfl) further later met
  intro userId username found
  rw [found] at unproven
  cases unproven

end SessionSite

end Chancela

namespace Chancela.SessionSite

open Interleave
open scoped Reference

def signedInAt : Instant := ⟨1770000000000000000, 0, by decide⟩

def signedInUntil : Instant := ⟨1770086400000000000, 0, by decide⟩

def signedInRecord : DurableSessionRecord :=
  ⟨sessionTokenDigest "t", ⟨1#128⟩, 1770000000, 1770000000, 1770086400⟩

def signedIn : SessionSite where
  shared := none
  node :=
    { sessions := Table.empty.insert ⟨"t", ⟨1#128⟩, signedInUntil⟩
      sessionIssuedAt := Keyed.empty.insert "t" signedInAt
      durableSessions := ⟨true, Table.empty.insert signedInRecord, some ⟨2, [signedInRecord]⟩⟩
      users := Keyed.empty.insert ⟨1#128⟩ ⟨"amelia", true⟩
      sessionMaxLifetime := 604800
      boots := 0 }

/-- One call revokes the session, the other resolves its token. -/
def revokeAndResolve (revokes : Bool) : SessionCall :=
  if revokes then .revokeDigestEverywhere (sessionTokenDigest "t")
  else .resolveSessionIdentity "t" signedInAt

def bothArrive : World SessionSite Bool InFlight := ⟨signedIn, fun _ => ⟨0, .arrived⟩⟩

def sectionsOf (revokes : Bool) (count : Nat) : List (Bool × SiteReplies) :=
  List.replicate count (revokes, ⟨.done, true, 1770000001, true⟩)

/-- A revocation alone is final. -/
theorem revoked_final_alone :
    (((sectionsOf true 4).foldl (turn (serveCalls revokeAndResolve)) bothArrive).progress
        true).stage = .finished .revoked ∧
      ((sectionsOf true 4).foldl (turn (serveCalls revokeAndResolve)) bothArrive).shared.Absent
        "t" := by
  have reported : (((sectionsOf true 4).foldl (turn (serveCalls revokeAndResolve))
      bothArrive).progress true).stage = .finished .revoked := by decide +kernel
  have spares : ∀ party, (revokeAndResolve party).Spares (sessionTokenDigest "t") := by
    intro party
    cases party <;> trivial
  have lasts : Run.Admissible (turn (serveCalls revokeAndResolve))
      (RemovalLasts revokeAndResolve true "t") bothArrive (sectionsOf true 4) := by decide +kernel
  have final := @revoked_final _ Bool _ revokeAndResolve "t" true bothArrive rfl (fun _ => rfl)
    (.inl rfl) spares (sectionsOf true 4) lasts
  exact ⟨reported, (final _ (Run.foldl_mem_states _ _) reported).1⟩

/-- The revocation alone, on a disk that takes no write. -/
def diskFull : List (Bool × SiteReplies) :=
  (true, ⟨.failedBefore, true, 1770000001, true⟩) :: sectionsOf true 3

/-- A revocation whose write fails reports success, and the record of the token stays. -/
theorem not_revoked_final :
    ¬∀ (calls : Bool → SessionCall) (start : World SessionSite Bool InFlight),
    start.shared.shared = none → start.shared.node.durableSessions.durable = true →
    (∀ party, (start.progress party).stage = .arrived) →
    calls true = .revokeDigestEverywhere (sessionTokenDigest "t") →
    (∀ party, (calls party).Spares (sessionTokenDigest "t")) →
    ∀ moves, ∀ world ∈ Run.states (turn (serveCalls calls)) start moves,
      (world.progress true).stage = .finished .revoked →
      ((world.progress false).stage = .arrived ∨
        ∃ outcome, (world.progress false).stage = .finished outcome) →
      world.shared.Absent "t" ∧
        world.shared.node.durableSessions.records.get (sessionTokenDigest "t") = none := by
  intro final
  have spares : ∀ party, (revokeAndResolve party).Spares (sessionTokenDigest "t") := by
    intro party
    cases party <;> trivial
  have dropped := (final revokeAndResolve bothArrive rfl rfl (fun _ => rfl) rfl spares diskFull _
    (Run.foldl_mem_states _ _) (by decide +kernel) (.inl (by decide +kernel))).2
  have kept : (diskFull.foldl (turn (serveCalls revokeAndResolve))
      bothArrive).shared.node.durableSessions.records.get (sessionTokenDigest "t") =
        some signedInRecord := by decide +kernel
  rw [kept] at dropped
  cases dropped

end Chancela.SessionSite
