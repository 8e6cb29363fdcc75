import Chancela.Crates.Reference
import Chancela.Foundation.Run
import Chancela.Session.Resolution

/-! # The lifetime of a session

Sequences of calls on one durable node. The node keeps its instants in three places: to the
nanosecond beside the live sessions and in their expiry, and in whole seconds in the registry.
A resolution authenticates within the bounds of the grant only, and within them, with a second
to spare and no restart in between, it does where the sums of instants are representable
(`Chancela.SessionHistory.within_lifetime`).
-/

namespace Chancela

variable [Crates]

namespace SessionSite

variable {site : SessionSite} {token : String} {now expiresAt : Instant}
  {granted : Option Grant} {userId : Uuid}

def MintOutline (site : SessionSite) (token : String) (userId : Uuid) (now expiresAt : Instant)
    (granted : Option Grant) : MintStep → Prop
  | .insertDurable => site.Vouched token now granted
  | .readEpoch | .insertLive => site.Slid token expiresAt ⟨userId, now, now, false⟩
  | .insertIssued =>
      site.Slid token expiresAt ⟨userId, now, now, false⟩ ∧
        site.node.sessions.get token = some ⟨token, userId, expiresAt⟩
  | _ => False

/-- What holds between the sections of a minting. -/
structure Minting (start : SessionSite) (token : String) (userId : Uuid) (now : Instant)
    (granted : Option Grant) (site : SessionSite) (progress : InFlight) : Prop where
  beside : Beside (sessionTokenDigest token) start site
  present : progress.boot = site.node.boots
  outline : match progress.stage with
    | .arrived | .finished .failed | .finished .panicked => site.Vouched token now granted
    | .minting expiresAt step =>
        now.checkedAdd (Duration.seconds sessionTtlSecs) = some expiresAt ∧
          site.MintOutline token userId now expiresAt granted step
    | .finished .minted => site.Vouched token now (some ⟨userId, now, now, false⟩)
    | _ => False

theorem minting_serve {start : SessionSite} {progress : InFlight} (alone : start.Alone)
    (utc : now.offset = 0) (minting : Minting start token userId now granted site progress) :
    Minting start token userId now granted
      (site.serve .steady (.mintSession token userId now) progress).1
      (site.serve .steady (.mintSession token userId now) progress).2 := by
  have here := alone.beside minting.beside
  have outline := minting.outline
  cases staged : progress.stage with
  | finished outcome =>
      rw [serve_finished staged]
      exact minting
  | arrived =>
      rw [staged] at outline
      rw [serve_arrived staged]
      unfold begin_
      dsimp only
      cases expires : now.checkedAdd (Duration.seconds sessionTtlSecs) with
      | none => exact ⟨minting.beside, rfl, outline⟩
      | some expiresAt =>
          dsimp only
          rw [if_pos here.durable]
          exact ⟨minting.beside, rfl, expires, outline⟩
  | minting expiresAt step =>
      rw [staged] at outline
      obtain ⟨expires, outline⟩ := outline
      have beside := @beside_serveMint _ site token userId now expiresAt here.durable step
      rw [serve_minting staged minting.present]
      refine ⟨minting.beside.trans beside, minting.present.trans beside.boots.symm, ?_⟩
      cases step with
      | insertDurable =>
          unfold serveMint
          dsimp only
          rw [SiteReplies.steady_write]
          rcases @DurableSessionRegistry.get_insert site.node.durableSessions _ token userId now
            expiresAt with ⟨inserted, found⟩ | refused
          · rw [if_pos inserted]
            refine ⟨expires, fun record present => ?_⟩
            obtain rfl := Option.some.inj (found.symm.trans present)
            exact ⟨⟨rfl, rfl⟩, rfl⟩
          · rw [refused, if_neg Bool.false_ne_true]
            exact outline
      | readEpoch =>
          unfold serveMint
          rw [here.alone]
          exact ⟨expires, outline⟩
      | insertLive =>
          refine ⟨expires, outline, ?_⟩
          change (site.node.sessions.insert ⟨token, userId, expiresAt⟩).get token = _
          rw [Table.get_insert, if_pos rfl]
      | insertIssued =>
          have coined : (Grant.mk userId now now false).mintedAt.offset = 0 := utc
          exact vouched_renewed coined expires outline.2 rfl rfl
            ⟨now, Keyed.insert_self, utc, .inl rfl⟩ outline.1
      | put epoch => exact absurd outline id
      | rollBack => exact absurd outline id
  | resolving newExpiresAt step =>
      rw [staged] at outline
      exact absurd outline id
  | revoking step =>
      rw [staged] at outline
      exact absurd outline id

/-- What holds between the sections of a revocation. -/
structure Revocation (start : SessionSite) (digest : String) (site : SessionSite)
    (progress : InFlight) : Prop where
  beside : Beside digest start site
  present : progress.boot = site.node.boots
  outline : match progress.stage with
    | .arrived => True
    | .revoking .delete | .revoking .scan => site.node.durableSessions.records.get digest = none
    | .revoking (.remove tokens) =>
        site.node.durableSessions.records.get digest = none ∧
          (∀ token ∈ tokens, sessionTokenDigest token = digest) ∧
          ∀ token, sessionTokenDigest token = digest → token ∈ tokens ∨ site.Absent token
    | .revoking (.deleteEach _) | .finished .revoked =>
        site.node.durableSessions.records.get digest = none ∧
          ∀ token, sessionTokenDigest token = digest → site.Absent token
    | _ => False

/-- A revocation of a digest, or of the device that holds its token. -/
def revocationOf (digest : String) (byDevice : Bool) : SessionCall :=
  if byDevice then .revokePairingDevice digest else .revokeDigestEverywhere digest

variable {digest : String} {byDevice : Bool}

theorem revocation_begin {start : SessionSite} {progress : InFlight} (alone : start.Alone)
    (revocation : Revocation start digest site progress) (arrived : progress.stage = .arrived) :
    Revocation start digest
      (site.serve .steady (revocationOf digest byDevice) progress).1
      (site.serve .steady (revocationOf digest byDevice) progress).2 := by
  have here := alone.beside revocation.beside
  have beside := revocation.beside.trans (beside_setDurable
    (@DurableSessionRegistry.touches_revokeByDigest site.node.durableSessions digest))
  have dropped := @DurableSessionRegistry.get_revokeByDigest site.node.durableSessions digest
    here.durable
  have reported : (site.node.durableSessions.revokeByDigest digest .done).2 = true := by
    unfold DurableSessionRegistry.revokeByDigest
    split
    · rfl
    · exact DurableSessionRegistry.snd_commit_done
  rw [serve_arrived arrived]
  cases byDevice with
  | true =>
      have reports : (site.begin_ .steady (revocationOf digest true)).2 = .revoking .scan :=
        if_pos reported
      refine ⟨beside, rfl, ?_⟩
      dsimp only
      rw [reports]
      exact dropped
  | false => exact ⟨beside, rfl, dropped⟩

theorem revocation_serve {start : SessionSite} {progress : InFlight} (alone : start.Alone)
    (revocation : Revocation start digest site progress) :
    Revocation start digest
      (site.serve .steady (revocationOf digest byDevice) progress).1
      (site.serve .steady (revocationOf digest byDevice) progress).2 := by
  have outline := revocation.outline
  cases staged : progress.stage with
  | finished outcome =>
      rw [serve_finished staged]
      exact revocation
  | arrived => exact revocation_begin alone revocation staged
  | revoking step =>
      rw [staged] at outline
      rw [revocationOf, serve_revoking staged revocation.present]
      cases step with
      | delete =>
          have beside : Beside digest site (site.deleteShared .steady digest) := beside_deleteShared
          exact ⟨revocation.beside.trans beside, revocation.present.trans beside.boots.symm,
            outline⟩
      | scan =>
          unfold serveRevoke
          dsimp only
          cases found : site.tokensOf digest with
          | nil =>
              refine ⟨revocation.beside, revocation.present, outline, fun token named => ?_⟩
              subst named
              apply absent_of_notMem_tokensOf
              rw [found]
              exact List.not_mem_nil
          | cons first rest =>
              refine ⟨revocation.beside, revocation.present, outline, fun token listed => ?_,
                fun token named => ?_⟩
              · rw [← found] at listed
                exact digest_of_mem_tokensOf listed
              · subst named
                by_cases listed : token ∈ site.tokensOf (sessionTokenDigest token)
                · rw [found] at listed
                  exact .inl listed
                · exact .inr (absent_of_notMem_tokensOf listed)
      | remove tokens =>
          obtain ⟨dropped, named, listed⟩ := outline
          have beside : Beside digest site (site.removeTokens tokens) := beside_removeTokens named
          have absent : ∀ token, sessionTokenDigest token = digest →
              (site.removeTokens tokens).Absent token := fun token same =>
            (listed token same).elim absent_removeTokens get_foldl_erase
          refine ⟨revocation.beside.trans beside, revocation.present.trans beside.boots.symm, ?_⟩
          cases byDevice with
          | true => exact ⟨dropped, absent⟩
          | false => exact ⟨dropped, absent⟩
      | deleteEach tokens =>
          cases tokens with
          | nil => exact ⟨revocation.beside, revocation.present, outline⟩
          | cons first tokens =>
              have beside : Beside digest site
                  (site.deleteShared .steady (sessionTokenDigest first)) := beside_deleteShared
              exact ⟨revocation.beside.trans beside, revocation.present.trans beside.boots.symm,
                outline⟩
  | minting newExpiresAt step =>
      rw [staged] at outline
      exact absurd outline id
  | resolving newExpiresAt step =>
      rw [staged] at outline
      exact absurd outline id

end SessionSite

/-- A node with the grants of its tokens, and the latest instant a call was made at. -/
structure SessionHistory where
  site : SessionSite
  grants : Grants
  clock : Instant

def SessionCall.instant : SessionCall → Option Instant
  | .mintSession _ _ now | .resolveSessionIdentity _ now | .restart now => some now
  | _ => none

def InFlight.outcome (progress : InFlight) : SessionOutcome :=
  match progress.stage with
  | .finished outcome => outcome
  | _ => .lost

namespace SessionHistory

def perform (history : SessionHistory) (call : SessionCall) : SessionHistory :=
  let completed := history.site.complete call
  ⟨completed.1, history.grants.after call completed.2.outcome,
    call.instant.getD history.clock⟩

/-- The calls of a session on one node: at no earlier instant than those before, about these
tokens, and in UTC where they mint one. -/
def Permitted (tokens : Set String) (history : SessionHistory) : SessionCall → Prop
  | .mintSession token _ now => token ∈ tokens ∧ history.clock ≤ now ∧ now.offset = 0
  | .resolveSessionIdentity token now => token ∈ tokens ∧ history.clock ≤ now
  | .restart now => history.clock ≤ now
  | .revokeDigestEverywhere _ | .revokePairingDevice _ | .setUser _ _ => True
  | _ => False

/-- Nothing has been kept or granted yet. -/
structure Fresh (history : SessionHistory) : Prop where
  alone : history.site.Alone
  sessions : history.site.node.sessions = Table.empty
  records : history.site.node.durableSessions.records = Table.empty
  file : history.site.node.durableSessions.file = none
  grants : history.grants = Keyed.empty

/-- What a node keeps is what is granted. -/
structure Sound (tokens : Set String) (history : SessionHistory) : Prop where
  alone : history.site.Alone
  backed : history.site.node.durableSessions.Backed history.clock
  vouched : ∀ token ∈ tokens,
    history.site.Vouched token history.clock (history.grants token)

variable {tokens : Set String} {history : SessionHistory}

theorem Fresh.sound (fresh : history.Fresh) : history.Sound tokens where
  alone := fresh.alone
  backed later _ digest record present := by
    obtain ⟨document, held, -⟩ := DurableSessionRegistry.exists_of_get_loadAt present
    rw [fresh.file] at held
    cases held
  vouched token _ := by
    rw [fresh.grants]
    apply SessionSite.vouched_none
    · unfold SessionSite.Absent
      rw [fresh.sessions, Table.get_empty]
    · rw [fresh.records, Table.get_empty]

theorem Sound.of_beside {after : SessionHistory} {token : String} (sound : history.Sound tokens)
    (distinct : Set.InjOn sessionTokenDigest tokens) (listed : token ∈ tokens)
    (beside : SessionSite.Beside (sessionTokenDigest token) history.site after.site)
    (later : history.clock ≤ after.clock)
    (others : ∀ other, other ≠ token → after.grants other = history.grants other)
    (vouched : after.site.Vouched token after.clock (after.grants token)) :
    after.Sound tokens where
  alone := sound.alone.beside beside
  backed := (beside.touches.backed _ sound.backed).of_le later
  vouched other member := by
    by_cases same : other = token
    · rw [same]
      exact vouched
    · rw [others other same]
      apply ((sound.vouched other member).beside beside _).of_le later
      exact fun equal => same (distinct member listed equal)

variable {token digest : String} {userId : Uuid} {now : Instant}

theorem Sound.resolve (sound : history.Sound tokens)
    (distinct : Set.InjOn sessionTokenDigest tokens) (listed : token ∈ tokens)
    (later : history.clock ≤ now) :
    (history.perform (.resolveSessionIdentity token now)).Sound tokens := by
  obtain ⟨outcome, ended, beside, settled⟩ :=
    SessionSite.settled_complete sound.alone ((sound.vouched token listed).of_le later)
  have granted : (history.perform (.resolveSessionIdentity token now)).grants =
      history.grants.after (.resolveSessionIdentity token now) outcome := by
    unfold perform InFlight.outcome
    dsimp only
    rw [ended]
  apply sound.of_beside distinct listed beside later
  · intro other apart
    rw [granted]
    cases outcome with
    | authenticated userId username => exact if_neg apart
    | evicted => exact Keyed.erase_of_ne apart
    | _ => rfl
  · rw [granted]
    cases outcome with
    | authenticated userId username =>
        obtain ⟨grant, held, -, -, -, -, -, vouched⟩ := settled
        have renewed : history.grants.after (.resolveSessionIdentity token now)
            (.authenticated userId username) token =
              some { grant with seenAt := now, restarted := false } := by
          unfold Grants.after
          dsimp only
          rw [if_pos rfl, held, Option.map_some]
        rw [renewed]
        exact vouched
    | evicted =>
        have erased : history.grants.after (.resolveSessionIdentity token now) .evicted token =
            none := Keyed.erase_self
        rw [erased]
        exact settled.2
    | rejected => exact settled.1
    | panicked => exact settled.1
    | minted => exact absurd settled id
    | revoked => exact absurd settled id
    | performed => exact absurd settled id
    | failed => exact absurd settled id
    | lost => exact absurd settled id

theorem Sound.mint (sound : history.Sound tokens)
    (distinct : Set.InjOn sessionTokenDigest tokens) (listed : token ∈ tokens)
    (later : history.clock ≤ now) (utc : now.offset = 0) :
    (history.perform (.mintSession token userId now)).Sound tokens := by
  obtain ⟨outcome, ended⟩ :=
    @SessionSite.complete_finished _ history.site (.mintSession token userId now)
  have minting : SessionSite.Minting history.site token userId now (history.grants token) _ _ :=
    SessionSite.complete_induction ⟨.refl, rfl, (sound.vouched token listed).of_le later⟩
      fun _ _ => SessionSite.minting_serve sound.alone utc
  have outline := minting.outline
  rw [ended] at outline
  have granted : (history.perform (.mintSession token userId now)).grants =
      history.grants.after (.mintSession token userId now) outcome := by
    unfold perform InFlight.outcome
    dsimp only
    rw [ended]
  apply sound.of_beside distinct listed minting.beside later
  · intro other apart
    rw [granted]
    cases outcome with
    | minted => exact Keyed.insert_of_ne apart
    | _ => rfl
  · rw [granted]
    cases outcome with
    | minted =>
        have inserted : history.grants.after (.mintSession token userId now) .minted token =
            some ⟨userId, now, now, false⟩ := Keyed.insert_self
        rw [inserted]
        exact outline
    | failed => exact outline
    | panicked => exact outline
    | rejected => exact absurd outline id
    | authenticated userId username => exact absurd outline id
    | evicted => exact absurd outline id
    | revoked => exact absurd outline id
    | performed => exact absurd outline id
    | lost => exact absurd outline id

theorem Sound.revoke {byDevice : Bool} (sound : history.Sound tokens) :
    (history.perform (SessionSite.revocationOf digest byDevice)).Sound tokens := by
  obtain ⟨outcome, ended⟩ :=
    @SessionSite.complete_finished _ history.site (SessionSite.revocationOf digest byDevice)
  have revocation : SessionSite.Revocation history.site digest _ _ :=
    SessionSite.complete_induction ⟨.refl, rfl, trivial⟩
      fun _ _ => @SessionSite.revocation_serve _ _ digest byDevice _ _ sound.alone
  have outline := revocation.outline
  rw [ended] at outline
  have clock : (history.perform (SessionSite.revocationOf digest byDevice)).clock =
      history.clock := by
    cases byDevice <;> rfl
  have revoked : outcome = .revoked := by
    cases outcome with
    | revoked => rfl
    | _ => exact absurd outline id
  subst revoked
  have granted : (history.perform (SessionSite.revocationOf digest byDevice)).grants =
      history.grants.retain fun token _ => sessionTokenDigest token != digest := by
    unfold perform InFlight.outcome
    dsimp only
    rw [ended]
    cases byDevice <;> rfl
  obtain ⟨dropped, absent⟩ := outline
  refine ⟨sound.alone.beside revocation.beside, ?_, fun token listed => ?_⟩
  · rw [clock]
    exact revocation.beside.touches.backed _ sound.backed
  · rw [clock, granted]
    by_cases same : sessionTokenDigest token = digest
    · have gone : history.grants.retain (fun token _ => sessionTokenDigest token != digest) token =
          none := by
        rw [Option.eq_none_iff_forall_ne_some]
        intro grant held
        have kept := (Keyed.retain_eq_some_iff.mp held).2
        rw [bne_iff_ne] at kept
        exact kept same
      rw [gone]
      apply SessionSite.vouched_none (absent token same)
      rw [same]
      exact dropped
    · have stays : history.grants.retain (fun token _ => sessionTokenDigest token != digest)
          token = history.grants token := by
        change (history.grants token).filter (fun _ => sessionTokenDigest token != digest) = _
        rw [bne_iff_ne.mpr same]
        cases history.grants token <;> rfl
      rw [stays]
      exact (sound.vouched token listed).beside revocation.beside same

theorem Sound.restart (sound : history.Sound tokens) (later : history.clock ≤ now) :
    (history.perform (.restart now)).Sound tokens := by
  have durable := sound.alone.durable
  have completed := @SessionSite.complete_of_begin _ history.site (.restart now) .performed rfl
  have site : (history.perform (.restart now)).site =
      { history.site with node := { history.site.node with
          sessions := Table.empty
          sessionIssuedAt := Keyed.empty
          durableSessions := .loadAt history.site.node.durableSessions.file true now
          boots := history.site.node.boots + 1 } } := by
    unfold perform
    dsimp only
    rw [completed]
    unfold SessionSite.begin_
    dsimp only
    rw [if_pos durable]
    rfl
  have granted : (history.perform (.restart now)).grants = fun token =>
      (history.grants token).map fun grant => { grant with restarted := true } := rfl
  refine ⟨?_, ?_, fun token listed => ?_⟩
  · rw [site]
    exact ⟨sound.alone.alone, rfl, sound.alone.positive⟩
  · rw [site]
    exact DurableSessionRegistry.backed_loadAt
  · have vouched := sound.vouched token listed
    rw [site, granted]
    refine ⟨fun grant held => ?_, fun entry present => ?_, fun record present => ?_,
      fun grant held undisturbed => ?_⟩
    · obtain ⟨before, given, rfl⟩ := Option.map_eq_some_iff.mp held
      exact vouched.utc before given
    · rw [Table.get_empty] at present
      cases present
    · obtain ⟨raw, found, rfl⟩ := sound.backed now later _ record present
      obtain ⟨grant, held, names, ends⟩ := vouched.record raw found
      have same : raw.seen.userId = raw.userId ∧ raw.seen.issuedAtUnix = raw.issuedAtUnix ∧
          raw.seen.expiresAtUnix = raw.expiresAtUnix := by
        unfold DurableSessionRecord.seen
        split <;> exact ⟨rfl, rfl, rfl⟩
      obtain ⟨userId, issuedAt, expires⟩ := same
      exact ⟨{ grant with restarted := true }, congrArg (Option.map _) held,
        ⟨userId.trans names.userId, issuedAt.trans names.issuedAt⟩,
        fun bounded => expires.trans (ends bounded)⟩
    · obtain ⟨before, given, rfl⟩ := Option.map_eq_some_iff.mp held
      cases undisturbed

theorem Sound.setUser {user : Option SessionUser} (sound : history.Sound tokens) :
    (history.perform (.setUser userId user)).Sound tokens := by
  have completed := @SessionSite.complete_of_begin _ history.site (.setUser userId user)
    .performed rfl
  have site : (history.perform (.setUser userId user)).site =
      { history.site with node := { history.site.node with
          users := Function.update history.site.node.users userId user } } := by
    unfold perform
    dsimp only
    rw [completed]
    rfl
  refine ⟨?_, ?_, fun token listed => ?_⟩
  · rw [site]
    exact ⟨sound.alone.alone, sound.alone.durable, sound.alone.positive⟩
  · rw [site]
    exact sound.backed
  · have vouched := sound.vouched token listed
    rw [site]
    exact ⟨vouched.utc, vouched.live, vouched.record, vouched.kept⟩

/-- **What a permitted call keeps.** -/
theorem Sound.perform (distinct : Set.InjOn sessionTokenDigest tokens) {call : SessionCall}
    (sound : history.Sound tokens) (permitted : history.Permitted tokens call) :
    (history.perform call).Sound tokens := by
  cases call with
  | mintSession token userId now =>
      obtain ⟨listed, later, utc⟩ := permitted
      exact sound.mint distinct listed later utc
  | resolveSessionIdentity token now =>
      obtain ⟨listed, later⟩ := permitted
      exact sound.resolve distinct listed later
  | revokeDigestEverywhere digest => exact @Sound.revoke _ tokens history digest false sound
  | revokePairingDevice digest => exact @Sound.revoke _ tokens history digest true sound
  | setUser userId user => exact sound.setUser
  | restart now => exact sound.restart permitted
  | applySessionRevoked digest => exact absurd permitted id
  | clearAll => exact absurd permitted id
  | expire digest => exact absurd permitted id

def resolves (history : SessionHistory) (token : String) (now : Instant) : SessionOutcome :=
  (history.site.complete (.resolveSessionIdentity token now)).2.outcome

/-- **The lifetime of a session.** Whenever a resolution authenticates a token, the token is
granted to that user, who is active, and both its absolute lifetime and the time it may stay
unseen have not run out. A token that is granted, with a second to spare and no restart since it
was seen, is authenticated just if the ends of both are representable. -/
theorem within_lifetime (distinct : Set.InjOn sessionTokenDigest tokens) {start : SessionHistory}
    (fresh : start.Fresh) (calls : List SessionCall)
    (permitted : Run.Admissible SessionHistory.perform (Permitted tokens) start calls) :
    ∀ history ∈ Run.states SessionHistory.perform start calls,
      ∀ token ∈ tokens, ∀ now, history.clock ≤ now →
        (∀ userId username, history.resolves token now = .authenticated userId username →
          ∃ grant, history.grants token = some grant ∧ grant.userId = userId ∧
            history.site.node.users userId = some ⟨username, true⟩ ∧
            now.nanos < grant.mintedAt.nanos +
              Duration.seconds history.site.node.sessionMaxLifetime ∧
            now.nanos < grant.seenAt.nanos + Duration.seconds sessionTtlSecs) ∧
        ∀ grant username, history.grants token = some grant → grant.restarted = false →
          history.site.node.users grant.userId = some ⟨username, true⟩ →
          now.nanos + 1000000000 ≤ grant.mintedAt.nanos +
            Duration.seconds history.site.node.sessionMaxLifetime →
          now.nanos + 1000000000 ≤ grant.seenAt.nanos + Duration.seconds sessionTtlSecs →
          (history.resolves token now = .authenticated grant.userId username ↔
            (now.checkedAdd (Duration.seconds sessionTtlSecs)).isSome = true ∧
              grant.Bounded history.site.node.sessionMaxLifetime) := by
  intro history reached token listed now later
  have sound : history.Sound tokens :=
    Run.forall_mem_states (fun _ _ => Sound.perform distinct) fresh.sound permitted history reached
  obtain ⟨outcome, ended, beside, settled⟩ :=
    SessionSite.settled_complete sound.alone ((sound.vouched token listed).of_le later)
  have resolves : history.resolves token now = outcome := by
    unfold SessionHistory.resolves InFlight.outcome
    rw [ended]
  rw [resolves]
  have users := beside.users
  have lifetime := beside.lifetime
  constructor
  · intro userId username same
    subst same
    obtain ⟨grant, held, owner, lasts, recent, known, -⟩ := settled
    have before := lasts.before
    rw [lifetime] at before
    rw [users] at known
    exact ⟨grant, held, owner, known, before, Int.not_le.mp recent⟩
  · intro grant username held undisturbed known within recent
    constructor
    · intro same
      subst same
      obtain ⟨other, held', -, lasts, -, -, representable, -⟩ := settled
      obtain rfl := Option.some.inj (held.symm.trans held')
      have bounded := lasts.bounded
      rw [lifetime] at bounded
      exact ⟨representable, bounded⟩
    · intro ⟨representable, bounded⟩
      cases outcome with
      | authenticated userId name =>
          obtain ⟨other, held', owner, -, -, known', -⟩ := settled
          obtain rfl := Option.some.inj (held.symm.trans held')
          rw [users, ← owner, known] at known'
          obtain rfl := (SessionUser.mk.inj (Option.some.inj known')).1
          rw [owner]
      | rejected =>
          have unseen := settled.2 grant held undisturbed
          unfold Grant.Unseen at unseen
          omega
      | evicted =>
          rcases settled.1 grant held with inactive | elapsed
          · rw [users] at inactive
            cases inactive _ known
          · rw [lifetime] at elapsed
            omega
      | panicked =>
          rw [← lifetime] at bounded
          have missing := settled.2 grant held bounded
          rw [missing] at representable
          cases representable
      | minted => exact absurd settled id
      | revoked => exact absurd settled id
      | performed => exact absurd settled id
      | failed => exact absurd settled id
      | lost => exact absurd settled id

end SessionHistory

end Chancela

namespace Chancela.SessionHistory

open scoped Reference

/-- A durable node with one user, under a cap of this many seconds. -/
def unused (sessionMaxLifetime : Int) : SessionHistory where
  site :=
    { shared := none
      node :=
        { sessions := Table.empty
          sessionIssuedAt := Keyed.empty
          durableSessions := ⟨true, Table.empty, none⟩
          users := Keyed.empty.insert ⟨1#128⟩ ⟨"amelia", true⟩
          sessionMaxLifetime
          boots := 0 } }
  grants := Keyed.empty
  clock := .earliest 0

theorem fresh_unused {sessionMaxLifetime : Int} (positive : 0 < sessionMaxLifetime) :
    (unused sessionMaxLifetime).Fresh :=
  ⟨⟨rfl, rfl, positive⟩, rfl, rfl, rfl, rfl⟩

theorem firstUse_representable : (-377705116800000000000 : Int) ≤ 1770000000000000000 ∧
    (1770000000000000000 : Int) ≤ 253402300799999999999 := by decide

theorem secondUse_representable : (-377705116800000000000 : Int) ≤ 1770000060000000000 ∧
    (1770000060000000000 : Int) ≤ 253402300799999999999 := by decide

def firstUse : Instant := ⟨1770000000000000000, 0, firstUse_representable⟩

def secondUse : Instant := ⟨1770000060000000000, 0, secondUse_representable⟩

def mintOne : List SessionCall := [.mintSession "t" ⟨1#128⟩ firstUse]

theorem permitted_mintOne {sessionMaxLifetime : Int} :
    Run.Admissible SessionHistory.perform (Permitted {"t"}) (unused sessionMaxLifetime) mintOne :=
  ⟨⟨rfl, (by decide : Instant.earliest 0 ≤ firstUse), rfl⟩, trivial⟩

/-- Under the default cap a session is authenticated a minute after it was minted. -/
theorem within_lifetime_minute :
    (mintOne.foldl SessionHistory.perform (unused 604800)).resolves "t" secondUse =
      .authenticated ⟨1#128⟩ "amelia" := by
  have granted : (mintOne.foldl SessionHistory.perform (unused 604800)).grants "t" =
      some ⟨⟨1#128⟩, firstUse, firstUse, false⟩ := by decide +kernel
  have holds := (within_lifetime (Set.injOn_singleton sessionTokenDigest "t")
    (fresh_unused (by decide : (0 : Int) < 604800)) mintOne permitted_mintOne _
    (Run.foldl_mem_states _ _) "t" rfl secondUse (by decide +kernel)).2
  exact (holds _ "amelia" granted rfl (by decide +kernel) (by decide +kernel)
    (by decide +kernel)).mpr (by decide +kernel)

/-- Under a cap that ends after the last representable instant no session is authenticated. -/
theorem not_within_lifetime : ¬∀ (tokens : Set String), Set.InjOn sessionTokenDigest tokens →
    ∀ start : SessionHistory, start.Fresh →
    ∀ calls, Run.Admissible SessionHistory.perform (Permitted tokens) start calls →
    ∀ history ∈ Run.states SessionHistory.perform start calls,
      ∀ token ∈ tokens, ∀ now, history.clock ≤ now →
        ∀ grant username, history.grants token = some grant → grant.restarted = false →
          history.site.node.users grant.userId = some ⟨username, true⟩ →
          now.nanos + 1000000000 ≤ grant.mintedAt.nanos +
            Duration.seconds history.site.node.sessionMaxLifetime →
          now.nanos + 1000000000 ≤ grant.seenAt.nanos + Duration.seconds sessionTtlSecs →
          history.resolves token now = .authenticated grant.userId username := by
  intro holds
  have granted : (mintOne.foldl SessionHistory.perform (unused 253402300800)).grants "t" =
      some ⟨⟨1#128⟩, firstUse, firstUse, false⟩ := by decide +kernel
  have authenticated := holds {"t"} (Set.injOn_singleton sessionTokenDigest "t")
    (unused 253402300800) (fresh_unused (by decide)) mintOne permitted_mintOne _
    (Run.foldl_mem_states _ _) "t" rfl secondUse (by decide +kernel) _ "amelia" granted rfl
    (by decide +kernel) (by decide +kernel) (by decide +kernel)
  have panicked : (mintOne.foldl SessionHistory.perform (unused 253402300800)).resolves "t"
      secondUse = .panicked := by decide +kernel
  rw [panicked] at authenticated
  cases authenticated

end Chancela.SessionHistory
