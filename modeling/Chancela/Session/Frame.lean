import Chancela.Session.Site

/-! # What a section leaves alone

A section of a call puts nothing under a digest it is not about: not in the registry, not in
the shared store, and not among the live sessions, unless the call holds a record of the token.
These are the facts about single sections that the revocations rest on
(`Chancela.SessionSite.serve_frame`).
-/

namespace Chancela

variable [Crates]

def SessionCall.Spares (digest : String) : SessionCall → Prop
  | .mintSession token _ _ => sessionTokenDigest token ≠ digest
  | _ => True

/-- The section stands between a hit and the entry among the live sessions. -/
def ResolveStep.enters : ResolveStep → Bool
  | .slideShared _ | .capShared _ _ | .touchShared _ | .capDurable _ _ | .insertLive _ => true
  | _ => false

/-- The section writes the value back that it has read from the shared store. -/
def ResolveStep.slides : ResolveStep → Bool
  | .slideShared _ => true
  | _ => false

def SessionStage.enters : SessionStage → Bool
  | .resolving _ step => step.enters
  | _ => false

def SessionStage.slides : SessionStage → Bool
  | .resolving _ step => step.slides
  | _ => false

/-- The call is a resolution of the token, of the present boot or a later one, that has slid its
record and is still to enter it among the live sessions. -/
def SessionCall.entering (token : String) (boots : Nat) (call : SessionCall)
    (progress : InFlight) : Bool :=
  match call with
  | .resolveSessionIdentity other _ =>
      other = token && progress.stage.enters && boots ≤ progress.boot
  | _ => false

/-- The call is a resolution, of the present boot or a later one, that has read the value of the
digest from the shared store and is still to write it back. -/
def SessionCall.sliding (digest : String) (boots : Nat) (call : SessionCall)
    (progress : InFlight) : Bool :=
  match call with
  | .resolveSessionIdentity token _ =>
      sessionTokenDigest token = digest && progress.stage.slides && boots ≤ progress.boot
  | _ => false

omit [Crates] in
theorem SessionCall.entering_of_le {token : String} {call : SessionCall} {progress : InFlight}
    {boots later : Nat} (free : call.entering token boots progress = false)
    (boot : boots ≤ later) : call.entering token later progress = false := by
  cases call with
  | resolveSessionIdentity other now =>
      simp only [entering, Bool.and_eq_false_iff, decide_eq_false_iff_not] at free ⊢
      rcases free with elsewhere | past
      · exact .inl elsewhere
      · exact .inr fun still => past (boot.trans still)
  | _ => rfl

theorem SessionCall.sliding_of_le {digest : String} {call : SessionCall} {progress : InFlight}
    {boots later : Nat} (free : call.sliding digest boots progress = false)
    (boot : boots ≤ later) : call.sliding digest later progress = false := by
  cases call with
  | resolveSessionIdentity other now =>
      simp only [sliding, Bool.and_eq_false_iff, decide_eq_false_iff_not] at free ⊢
      rcases free with elsewhere | past
      · exact .inl elsewhere
      · exact .inr fun still => past (boot.trans still)
  | _ => rfl

def SessionOutcome.isAuthenticated : SessionOutcome → Bool
  | .authenticated _ _ => true
  | _ => false

namespace SessionSite

variable {site : SessionSite} {replies : SiteReplies} {call : SessionCall} {progress : InFlight}
  {token digest : String} {now expiresAt : Instant}

/-- What a section of a call can be. -/
inductive Served (site : SessionSite) (replies : SiteReplies) (call : SessionCall)
    (progress : InFlight) : SessionSite × InFlight → Prop
  | finished (outcome : SessionOutcome) (ended : progress.stage = .finished outcome) :
      Served site replies call progress (site, progress)
  | begun (arrived : progress.stage = .arrived) :
      Served site replies call progress
        ((site.begin_ replies call).1, ⟨site.node.boots, (site.begin_ replies call).2⟩)
  | minting (token : String) (userId : Uuid) (now expiresAt : Instant) (step : MintStep)
      (called : call = .mintSession token userId now)
      (staged : progress.stage = .minting expiresAt step)
      (present : progress.boot = site.node.boots) :
      Served site replies call progress
        ((site.serveMint replies token userId now expiresAt step).1,
          ⟨progress.boot, (site.serveMint replies token userId now expiresAt step).2⟩)
  | resolving (token : String) (now newExpiresAt : Instant) (step : ResolveStep)
      (called : call = .resolveSessionIdentity token now)
      (staged : progress.stage = .resolving newExpiresAt step)
      (present : progress.boot = site.node.boots) :
      Served site replies call progress
        ((site.serveResolve replies token now newExpiresAt step).1,
          ⟨progress.boot, (site.serveResolve replies token now newExpiresAt step).2⟩)
  | revoking (digest : String) (byDevice : Bool) (step : RevokeStep)
      (called : call =
        if byDevice then .revokePairingDevice digest else .revokeDigestEverywhere digest)
      (staged : progress.stage = .revoking step) (present : progress.boot = site.node.boots) :
      Served site replies call progress
        ((site.serveRevoke replies digest byDevice step).1,
          ⟨progress.boot, (site.serveRevoke replies digest byDevice step).2⟩)
  | dropped (outcome : SessionOutcome) (fruitless : outcome = .failed ∨ outcome = .lost) :
      Served site replies call progress (site, ⟨progress.boot, .finished outcome⟩)

theorem served (site : SessionSite) (replies : SiteReplies) (call : SessionCall)
    (progress : InFlight) :
    Served site replies call progress (site.serve replies call progress) := by
  unfold serve
  split
  · next outcome ended => exact .finished outcome ended
  · next arrived => exact .begun arrived
  · next unfinished underway =>
      split
      · next present =>
          unfold continue_
          split
          · next expiresAt step staged =>
              split
              · exact .minting _ _ _ expiresAt step rfl staged present
              · exact .dropped .failed (.inl rfl)
          · next newExpiresAt step staged =>
              split
              · exact .resolving _ _ newExpiresAt step rfl staged present
              · exact .dropped .failed (.inl rfl)
          · next step staged =>
              split
              · exact .revoking _ false step rfl staged present
              · exact .revoking _ true step rfl staged present
              · exact .dropped .failed (.inl rfl)
          · next unminted unresolved unrevoked =>
              cases staged : progress.stage with
              | arrived => exact absurd staged underway
              | minting expiresAt step => exact absurd staged (unminted expiresAt step)
              | resolving newExpiresAt step => exact absurd staged (unresolved newExpiresAt step)
              | revoking step => exact absurd staged (unrevoked step)
              | finished outcome => exact absurd staged (unfinished outcome)
      · exact .dropped .lost (.inr rfl)

def Absent (site : SessionSite) (token : String) : Prop := site.node.sessions.get token = none

/-- The shared store, if there is one, holds nothing under the digest. -/
def Unkeyed (site : SessionSite) (digest : String) : Prop :=
  ∀ redis, site.shared = some redis → redis.values digest = none

/-- What the section of a call leaves as it was. -/
structure Frame (site : SessionSite) (call : SessionCall) (progress : InFlight)
    (after : SessionSite) : Prop where
  alone : site.shared = none → after.shared = none
  joined : site.shared.isSome = true → after.shared.isSome = true
  lacks : ∀ digest, call.Spares digest → site.node.durableSessions.Lacks digest →
    after.node.durableSessions.Lacks digest
  unkeyed : ∀ digest, call.Spares digest → call.sliding digest site.node.boots progress = false →
    site.Unkeyed digest → after.Unkeyed digest
  absent : ∀ token, call.Spares (sessionTokenDigest token) →
    call.entering token site.node.boots progress = false → site.Absent token → after.Absent token
  boots : site.node.boots ≤ after.node.boots

/-! Changes of one store. -/

theorem Frame.same : Frame site call progress site :=
  ⟨id, id, fun _ _ => id, fun _ _ _ => id, fun _ _ _ => id, le_rfl⟩

theorem Frame.issued (issuedAt : Keyed String Instant) :
    Frame site call progress (site.setIssuedAt issuedAt) :=
  ⟨id, id, fun _ _ => id, fun _ _ _ => id, fun _ _ _ => id, le_rfl⟩

theorem Frame.live {sessions : Table LiveSession.token}
    (absent : ∀ token, call.Spares (sessionTokenDigest token) →
      call.entering token site.node.boots progress = false → site.Absent token →
      sessions.get token = none) :
    Frame site call progress (site.setSessions sessions) :=
  ⟨id, id, fun _ _ => id, fun _ _ _ => id, absent, le_rfl⟩

theorem Frame.durable {registry : DurableSessionRegistry}
    (lacks : ∀ digest, call.Spares digest → site.node.durableSessions.Lacks digest →
      registry.Lacks digest) :
    Frame site call progress (site.setDurable registry) :=
  ⟨id, id, lacks, fun _ _ _ => id, fun _ _ _ => id, le_rfl⟩

theorem Frame.shared {change : RedisSessions → RedisSessions}
    (unkeyed : ∀ digest, call.Spares digest →
      call.sliding digest site.node.boots progress = false → ∀ redis,
      redis.values digest = none → (change redis).values digest = none) :
    Frame site call progress (site.mapShared replies change) := by
  unfold mapShared
  split
  · refine ⟨fun alone => ?_, fun joined => ?_, fun _ _ => id, fun digest spares still before => ?_,
      fun _ _ _ => id, le_rfl⟩
    · dsimp only
      rw [alone]
      rfl
    · exact Option.isSome_map.trans joined
    · intro redis held
      obtain ⟨earlier, had, rfl⟩ := Option.map_eq_some_iff.mp held
      exact unkeyed digest spares still earlier (before earlier had)
  · exact Frame.same

variable {other : String}

omit [Crates] in
theorem Absent.erase (absent : site.Absent token) :
    (site.node.sessions.erase other).get token = none := by
  rw [Option.eq_none_iff_forall_ne_some]
  intro entry present
  have before := (Table.get_erase_eq_some_iff.mp present).2
  rw [absent] at before
  cases before

omit [Crates] in
theorem Absent.insert {entry : LiveSession} (absent : site.Absent token)
    (apart : entry.token ≠ token) : (site.node.sessions.insert entry).get token = none := by
  rw [Table.get_insert, if_neg (Ne.symm apart)]
  exact absent

theorem Frame.delete : Frame site call progress (site.deleteShared replies other) := by
  apply Frame.shared
  intro digest _ _ redis before
  by_cases same : digest = other
  · rw [same]
    exact Keyed.erase_self
  · exact (Keyed.erase_of_ne same).trans before

theorem Frame.eraseLive :
    Frame site call progress (site.setSessions (site.node.sessions.erase other)) :=
  Frame.live fun _ _ _ absent => absent.erase

theorem Frame.revoke {write : DiskWrite} :
    Frame site call progress
      (site.setDurable (site.node.durableSessions.revokeByDigest other write).1) :=
  Frame.durable fun _ _ lacks => lacks.revokeByDigest

/-! Sections. -/

theorem frame_serveMint {userId : Uuid} {issued : Instant} {step : MintStep} :
    Frame site (.mintSession token userId issued) progress
      (site.serveMint replies token userId now expiresAt step).1 := by
  cases step with
  | insertDurable => exact Frame.durable fun _ apart lacks => lacks.insert apart
  | readEpoch =>
      unfold serveMint
      dsimp only
      split
      · exact Frame.same
      · split <;> exact Frame.same
  | put epoch =>
      apply Frame.shared
      intro digest apart _ redis before
      exact (Keyed.insert_of_ne (Ne.symm apart)).trans before
  | rollBack => exact Frame.revoke
  | insertLive =>
      apply Frame.live
      intro other apart _ absent
      exact absent.insert fun same => apart (congrArg sessionTokenDigest same)
  | insertIssued => exact Frame.issued _

theorem frame_serveEvict {step : EvictStep} :
    Frame site call progress (site.serveEvict replies token expiresAt step).1 := by
  cases step with
  | live => exact Frame.eraseLive
  | issued => exact Frame.issued _
  | durable => exact Frame.revoke
  | shared => exact Frame.delete

theorem frame_afterCap {first : Instant} {next : ResolveStep} :
    Frame site call progress (afterCap (site.capExceeded token now first) expiresAt next).1 := by
  have kept : Frame site call progress (site.capExceeded token now first).1 := by
    unfold capExceeded
    split
    · exact Frame.same
    · exact Frame.issued _
  unfold afterCap
  split <;> exact kept

theorem frame_serveResolve {asked : Instant} {step : ResolveStep}
    (staged : progress.stage = .resolving expiresAt step)
    (present : progress.boot = site.node.boots) :
    Frame site (.resolveSessionIdentity token asked) progress
      (site.serveResolve replies token now expiresAt step).1 := by
  have slid : step.slides = true →
      SessionCall.sliding (sessionTokenDigest token) site.node.boots
        (.resolveSessionIdentity token asked) progress = true := by
    intro slides
    simp only [SessionCall.sliding, staged, SessionStage.slides, slides, present, le_refl,
      decide_true, Bool.and_self]
  have entered : step.enters = true → SessionCall.entering token site.node.boots
      (.resolveSessionIdentity token asked) progress = true := by
    intro enters
    simp only [SessionCall.entering, staged, SessionStage.enters, enters, present, le_refl,
      decide_true, Bool.and_self]
  have inserts : step.enters = true → ∀ entry : LiveSession, entry.token = token →
      Frame site (.resolveSessionIdentity token asked) progress
        (site.setSessions (site.node.sessions.insert entry)) := by
    intro enters entry named
    apply Frame.live
    intro other _ free absent
    apply absent.insert
    intro same
    rw [← same, named, entered enters] at free
    cases free
  cases step with
  | slideShared value =>
      apply Frame.shared
      intro digest _ still redis before
      by_cases same : digest = sessionTokenDigest token
      · rw [same, slid rfl] at still
        cases still
      · exact (Keyed.insert_of_ne same).trans before
  | capShared userId issuedAt => exact frame_afterCap
  | touchShared userId => exact inserts rfl _ rfl
  | dropLive => exact Frame.eraseLive
  | dropIssued => exact Frame.issued _
  | probe =>
      unfold serveResolve
      dsimp only
      split
      · split
        · split <;> exact Frame.same
        · exact Frame.eraseLive
      · exact Frame.same
  | slideLocal userId derived => exact Frame.durable fun _ _ lacks => lacks.slideIfPresent
  | capLocal userId issuedAt => exact frame_afterCap
  | touchLocal userId =>
      unfold serveResolve
      dsimp only
      split
      · next entry present =>
          apply Frame.live
          intro other _ _ absent
          have named : entry.token = token := Table.key_of_get present
          have apart : entry.token ≠ other := by
            intro same
            rw [← named, same, absent] at present
            cases present
          exact absent.insert apart
      · exact Frame.same
  | forget => exact Frame.issued _
  | slideDurable => exact Frame.durable fun _ _ lacks => lacks.resolveAndSlide
  | revokeUnusable => exact Frame.revoke
  | capDurable userId issuedAt => exact frame_afterCap
  | insertLive userId => exact inserts rfl _ rfl
  | readUser userId =>
      unfold serveResolve
      dsimp only
      split
      · split <;> exact Frame.same
      · exact Frame.same
  | evict step => exact frame_serveEvict

theorem absent_of_notMem_tokensOf {site : SessionSite}
    (missing : token ∉ site.tokensOf (sessionTokenDigest token)) : site.Absent token := by
  unfold Absent
  rw [Option.eq_none_iff_forall_ne_some]
  intro entry present
  have named : entry.token = token := Table.key_of_get present
  apply missing
  refine List.mem_map.mpr ⟨entry, List.mem_filter.mpr ⟨?_, ?_⟩, named⟩
  · rw [Table.mem_values, named]
    exact present
  · rw [named]
    exact decide_eq_true rfl

theorem digest_of_mem_tokensOf (listed : other ∈ site.tokensOf digest) :
    sessionTokenDigest other = digest := by
  obtain ⟨entry, found, rfl⟩ := List.mem_map.mp listed
  exact of_decide_eq_true (List.mem_filter.mp found).2

omit [Crates] in
theorem get_foldl_erase {sessions : Table LiveSession.token} {tokens : List String}
    (absent : sessions.get token = none) :
    (tokens.foldl Table.erase sessions).get token = none := by
  induction tokens generalizing sessions with
  | nil => exact absent
  | cons first rest ih =>
      apply ih
      rw [Option.eq_none_iff_forall_ne_some]
      intro entry present
      have before := (Table.get_erase_eq_some_iff.mp present).2
      rw [absent] at before
      cases before

omit [Crates] in
theorem absent_removeTokens {site : SessionSite} {tokens : List String} (listed : token ∈ tokens) :
    (site.removeTokens tokens).Absent token := by
  unfold removeTokens Absent
  change (tokens.foldl Table.erase site.node.sessions).get token = none
  generalize site.node.sessions = sessions
  induction tokens generalizing sessions with
  | nil => exact absurd listed List.not_mem_nil
  | cons first rest ih =>
      rcases List.mem_cons.mp listed with rfl | later
      · change (rest.foldl Table.erase (sessions.erase token)).get token = none
        apply get_foldl_erase
        rw [Option.eq_none_iff_forall_ne_some]
        exact fun entry present => (Table.get_erase_eq_some_iff.mp present).1 rfl
      · exact ih later _

theorem frame_serveRevoke {byDevice : Bool} {step : RevokeStep} :
    Frame site call progress (site.serveRevoke replies other byDevice step).1 := by
  cases step with
  | delete => exact Frame.delete
  | scan =>
      unfold serveRevoke
      dsimp only
      split <;> exact Frame.same
  | remove tokens =>
      exact ⟨id, id, fun _ _ => id, fun _ _ _ => id, fun _ _ _ => get_foldl_erase, le_rfl⟩
  | deleteEach tokens =>
      cases tokens with
      | nil => exact Frame.same
      | cons first tokens => exact Frame.delete

theorem frame_begin : Frame site call progress (site.begin_ replies call).1 := by
  cases call with
  | mintSession token userId now =>
      unfold begin_
      dsimp only
      split <;> exact Frame.same
  | resolveSessionIdentity token now =>
      unfold begin_
      dsimp only
      split
      · exact Frame.same
      · split <;> exact Frame.same
  | revokeDigestEverywhere digest => exact Frame.revoke
  | revokePairingDevice digest => exact Frame.revoke
  | setUser userId user =>
      exact ⟨id, id, fun _ _ => id, fun _ _ _ => id, fun _ _ _ => id, le_rfl⟩
  | applySessionRevoked digest =>
      apply Frame.live
      intro token _ _ absent
      rw [Option.eq_none_iff_forall_ne_some]
      intro entry present
      have before := (Table.get_retain_eq_some_iff.mp present).1
      rw [absent] at before
      cases before
  | clearAll => exact Frame.shared fun _ _ _ _ before => before
  | expire digest =>
      change Frame site _ progress (site.deleteShared ⟨.done, true, 0, true⟩ digest)
      exact Frame.delete
  | restart now =>
      refine ⟨id, id, fun digest _ lacks => ?_, fun _ _ _ => id, fun _ _ _ _ => Table.get_empty,
        Nat.le_succ _⟩
      unfold begin_
      dsimp only
      split
      · exact lacks.loadAt
      · exact lacks

/-- **What a section leaves alone.** -/
theorem serve_frame : Frame site call progress (site.serve replies call progress).1 := by
  have step := served site replies call progress
  generalize site.serve replies call progress = result at step ⊢
  cases step with
  | finished outcome ended => exact Frame.same
  | begun arrived => exact frame_begin
  | minting token userId now expiresAt step called staged present =>
      rw [called]
      exact frame_serveMint
  | resolving token now newExpiresAt step called staged present =>
      rw [called]
      exact frame_serveResolve staged present
  | revoking digest byDevice step called staged present => exact frame_serveRevoke
  | dropped outcome fruitless => exact Frame.same

end SessionSite

end Chancela
