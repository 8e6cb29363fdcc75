import Chancela.Session.Frame

/-! # One call at a time

Calls on a durable node that shares no store, each run to its end before the next begins, on a
disk that works. A call about a token leaves alone whatever is kept under the digests of
others (`Chancela.SessionSite.beside_complete`), and what a restart would load is in memory
already.
-/

namespace Chancela

namespace DurableSessionRegistry

/-- Whatever a restart loads from this instant on is in memory. -/
def Backed (registry : DurableSessionRegistry) (clock : Instant) : Prop :=
  ∀ later, clock ≤ later → ∀ digest record,
    (loadAt registry.file true later).records.get digest = some record →
      ∃ raw, registry.records.get digest = some raw ∧ raw.seen = record

variable {registry : DurableSessionRegistry} {clock later : Instant} {digest : String}
  {record : DurableSessionRecord}

theorem Backed.of_le (backed : registry.Backed clock) (after : clock ≤ later) :
    registry.Backed later :=
  fun latest ahead => backed latest (Int.le_trans after ahead)

theorem exists_of_get_loadAt {file : Option DurableSessionDocument}
    (present : (loadAt file true later).records.get digest = some record) :
    ∃ document, file = some document ∧ ∃ raw ∈ document.sessions, raw.seen = record ∧
      raw.tokenSha256 = digest ∧ later.unixTimestamp < record.expiresAtUnix := by
  unfold loadAt loadDurableSessions at present
  dsimp only at present
  split at present
  · rw [Option.getD_some, Table.get_empty] at present
    cases present
  · next document =>
      split at present
      · rw [Option.getD_none, Table.get_empty] at present
        cases present
      · cases load : loadRecords later.unixTimestamp document.sessions [] Table.empty with
        | none =>
            rw [load, Option.getD_none, Table.get_empty] at present
            cases present
        | some loaded =>
            rw [load, Option.getD_some] at present
            rcases exists_of_get_loadRecords load present with before | facts
            · rw [Table.get_empty] at before
              cases before
            · exact ⟨document, rfl, facts⟩

variable {next : DurableSessions}

theorem backed_commit (durable : registry.durable = true) :
    (registry.commit next .done).1.Backed clock := by
  unfold commit
  rw [if_pos durable]
  intro later _ digest record present
  obtain ⟨document, written, raw, listed, same, rfl, -⟩ := exists_of_get_loadAt present
  rw [← Option.some.inj written, mem_documentOf] at listed
  exact ⟨raw, listed, same⟩

theorem get_loadRecords_of_le {first second : Int} (ordered : first ≤ second)
    {sessions : List DurableSessionRecord} {seen : List String}
    {earlier later late : DurableSessions}
    (loaded : loadRecords second sessions seen later = some late)
    (fewer : ∀ digest record, later.get digest = some record → earlier.get digest = some record)
    (met : ∀ digest record, later.get digest = some record → digest ∈ seen)
    (present : late.get digest = some record) :
    ∃ early, loadRecords first sessions seen earlier = some early ∧
      early.get digest = some record := by
  induction sessions generalizing seen earlier later with
  | nil =>
      obtain rfl := Option.some.inj loaded
      exact ⟨earlier, rfl, fewer digest record present⟩
  | cons raw rest ih =>
      rw [loadRecords] at loaded ⊢
      split at loaded
      · cases loaded
      · next valid =>
          rw [if_neg valid]
          have named : raw.seen.tokenSha256 = raw.tokenSha256 := by
            unfold DurableSessionRecord.seen
            split <;> rfl
          have unmet : raw.tokenSha256 ∉ seen := by
            intro listed
            apply valid
            rw [Bool.or_eq_true]
            exact .inr (List.contains_iff_mem.mpr listed)
          refine ih loaded (fun digest record found => ?_) fun digest record found => ?_
          · split at found
            · next unexpired =>
                rw [if_pos (Int.lt_of_le_of_lt ordered unexpired)]
                rcases Table.get_insert_eq_some_iff.mp found with ⟨rfl, rfl⟩ | ⟨apart, found⟩
                · exact Table.get_insert_self
                · exact Table.get_insert_eq_some_iff.mpr (.inr ⟨apart, fewer digest record found⟩)
            · have apart : digest ≠ raw.tokenSha256 := fun same =>
                unmet (same ▸ met digest record found)
              split
              · rw [← named] at apart
                exact Table.get_insert_eq_some_iff.mpr (.inr ⟨apart, fewer digest record found⟩)
              · exact fewer digest record found
          · split at found
            · rcases Table.get_insert_eq_some_iff.mp found with ⟨rfl, rfl⟩ | ⟨apart, found⟩
              · rw [named]
                exact List.mem_cons_self
              · exact List.mem_cons_of_mem _ (met digest record found)
            · exact List.mem_cons_of_mem _ (met digest record found)

theorem backed_loadAt {file : Option DurableSessionDocument} :
    (loadAt file true clock).Backed clock := by
  intro later after digest record present
  obtain ⟨document, rfl, raw, listed, same, named, unexpired⟩ := exists_of_get_loadAt present
  refine ⟨record, ?_, ?_⟩
  · unfold loadAt loadDurableSessions at present ⊢
    dsimp only at present ⊢
    split at present
    · rw [Option.getD_none, Table.get_empty] at present
      cases present
    · next accepted =>
        rw [if_neg accepted]
        have ordered : clock.unixTimestamp ≤ later.unixTimestamp :=
          Int.ediv_le_ediv (by decide) after
        cases late : loadRecords later.unixTimestamp document.sessions [] Table.empty with
        | none =>
            rw [late, Option.getD_none, Table.get_empty] at present
            cases present
        | some reloaded =>
            rw [late, Option.getD_some] at present
            have empty : ∀ digest record,
                (Table.empty : DurableSessions).get digest = some record → digest ∈ [] := by
              intro digest record found
              rw [Table.get_empty] at found
              cases found
            obtain ⟨early, loaded, found⟩ := get_loadRecords_of_le ordered late (fun _ _ => id)
              empty present
            rw [loaded, Option.getD_some]
            exact found
  · rw [← same]
    unfold DurableSessionRecord.seen
    split
    · exact if_neg (Int.lt_irrefl _)
    · rfl

/-- A change of what is kept under one digest: the registry stays durable and backed, and keeps
nothing under other digests that it did not keep. -/
structure Touches (registry : DurableSessionRegistry) (digest : String)
    (after : DurableSessionRegistry) : Prop where
  durable : after.durable = registry.durable
  backed : ∀ clock, registry.Backed clock → after.Backed clock
  others : ∀ other, other ≠ digest → ∀ record, after.records.get other = some record →
    registry.records.get other = some record

theorem Touches.refl : registry.Touches digest registry := ⟨rfl, fun _ => id, fun _ _ _ => id⟩

theorem durable_commit {write : DiskWrite} :
    (registry.commit next write).1.durable = registry.durable := by
  unfold commit
  split
  · cases write <;> rfl
  · rfl

theorem records_commit_done : (registry.commit next .done).1.records = next := by
  unfold commit
  split <;> rfl

theorem snd_commit_done : (registry.commit next .done).2 = true := by
  unfold commit
  split <;> rfl

theorem touches_commit (durable : registry.durable = true)
    (others : ∀ other, other ≠ digest → ∀ record, next.get other = some record →
      registry.records.get other = some record) :
    registry.Touches digest (registry.commit next .done).1 where
  durable := durable_commit
  backed _ _ := backed_commit durable
  others other apart record present := by
    rw [records_commit_done] at present
    exact others other apart record present

theorem touches_revokeByDigest :
    registry.Touches digest (registry.revokeByDigest digest .done).1 := by
  unfold revokeByDigest
  split
  · exact Touches.refl
  · next held =>
      have durable : registry.durable = true := by
        cases flag : registry.durable with
        | true => rfl
        | false =>
            rw [flag] at held
            exact absurd rfl held
      apply touches_commit durable
      intro other _ record present
      exact (Table.get_erase_eq_some_iff.mp present).2

theorem get_revokeByDigest (durable : registry.durable = true) :
    (registry.revokeByDigest digest .done).1.records.get digest = none := by
  unfold revokeByDigest
  cases found : registry.records.get digest with
  | none =>
      rw [if_pos (by simp only [Option.isNone_none, Bool.or_true])]
      exact found
  | some record =>
      rw [if_neg (by simp only [durable, Bool.not_true, Option.isNone_some, Bool.or_self,
        Bool.false_eq_true, not_false_eq_true]), records_commit_done,
        Option.eq_none_iff_forall_ne_some]
      exact fun record present => (Table.get_erase_eq_some_iff.mp present).1 rfl

variable [Crates] {token : String} {userId : Uuid} {now expiresAt : Instant}

theorem touches_insert (durable : registry.durable = true) :
    registry.Touches (sessionTokenDigest token)
      (registry.insert token userId now expiresAt .done).1 := by
  unfold DurableSessionRegistry.insert
  dsimp only
  split
  · exact Touches.refl
  · apply touches_commit durable
    intro other apart record present
    rcases Table.get_insert_eq_some_iff.mp present with ⟨same, -⟩ | ⟨-, present⟩
    · exact absurd same apart
    · exact (Table.get_retain_eq_some_iff.mp present).1

theorem get_insert :
    (registry.insert token userId now expiresAt .done).2 = true ∧
        (registry.insert token userId now expiresAt .done).1.records.get
            (sessionTokenDigest token) =
          some ⟨sessionTokenDigest token, userId, now.unixTimestamp, now.unixTimestamp,
            expiresAt.unixTimestamp⟩ ∨
      registry.insert token userId now expiresAt .done = (registry, false) := by
  unfold DurableSessionRegistry.insert
  dsimp only
  split
  · exact .inr rfl
  · rw [snd_commit_done, records_commit_done, Table.get_insert, if_pos rfl]
    exact .inl ⟨rfl, rfl⟩

theorem touches_resolveAndSlide (durable : registry.durable = true) :
    registry.Touches (sessionTokenDigest token)
      (registry.resolveAndSlide token now expiresAt .done).1 := by
  unfold resolveAndSlide
  split
  · exact Touches.refl
  · next record found =>
      have named : record.tokenSha256 = sessionTokenDigest token := Table.key_of_get found
      dsimp only
      split
      · apply touches_commit durable
        intro other _ record present
        exact (Table.get_erase_eq_some_iff.mp present).2
      · apply touches_commit durable
        intro other apart slid present
        rcases Table.get_insert_eq_some_iff.mp present with ⟨same, -⟩ | ⟨-, present⟩
        · exact absurd (same.trans named) apart
        · exact present

theorem resolveAndSlide_cases :
    ((registry.resolveAndSlide token now expiresAt .done).2 = .absent ∧
        (registry.resolveAndSlide token now expiresAt .done).1.records.get
          (sessionTokenDigest token) = none) ∨
      ∃ record, registry.records.get (sessionTokenDigest token) = some record ∧
        now.unixTimestamp < record.expiresAtUnix ∧
        (registry.resolveAndSlide token now expiresAt .done).2 =
          .slid { record with
            expiresAtUnix := expiresAt.unixTimestamp
            lastSeenUnix := now.unixTimestamp } ∧
        (registry.resolveAndSlide token now expiresAt .done).1.records.get
          (sessionTokenDigest token) = some { record with
            expiresAtUnix := expiresAt.unixTimestamp
            lastSeenUnix := now.unixTimestamp } := by
  unfold resolveAndSlide
  split
  · next missing => exact .inl ⟨rfl, missing⟩
  · next record found =>
      have named : sessionTokenDigest token = record.tokenSha256 := (Table.key_of_get found).symm
      dsimp only
      split
      · left
        rw [snd_commit_done, records_commit_done, Option.eq_none_iff_forall_ne_some]
        exact ⟨rfl, fun record present => (Table.get_erase_eq_some_iff.mp present).1 rfl⟩
      · next unexpired =>
          right
          rw [snd_commit_done, records_commit_done, Table.get_insert, if_pos named]
          exact ⟨record, found, Int.not_le.mp unexpired, rfl, rfl⟩

end DurableSessionRegistry

/-- What a section meets that shares no store, on a disk that works. -/
def SiteReplies.steady : SiteReplies := ⟨.done, true, 0, true⟩

@[simp] theorem SiteReplies.steady_write : steady.write = .done := rfl

variable [Crates]

namespace SessionSite

/-- A change of what is kept under one digest, and the token of it. -/
structure Beside (digest : String) (site after : SessionSite) : Prop where
  alone : site.shared = none → after.shared = none
  users : after.node.users = site.node.users
  lifetime : after.node.sessionMaxLifetime = site.node.sessionMaxLifetime
  boots : after.node.boots = site.node.boots
  touches : site.node.durableSessions.Touches digest after.node.durableSessions
  live : ∀ other, sessionTokenDigest other ≠ digest →
    after.node.sessions.get other = site.node.sessions.get other
  issued : ∀ other, sessionTokenDigest other ≠ digest →
    after.node.sessionIssuedAt other = site.node.sessionIssuedAt other

variable {site after : SessionSite} {digest token : String} {replies : SiteReplies}

theorem Beside.refl : Beside digest site site :=
  ⟨id, rfl, rfl, rfl, .refl, fun _ _ => rfl, fun _ _ => rfl⟩

theorem Beside.trans {last : SessionSite} (first : Beside digest site after)
    (second : Beside digest after last) : Beside digest site last where
  alone alone := second.alone (first.alone alone)
  users := second.users.trans first.users
  lifetime := second.lifetime.trans first.lifetime
  boots := second.boots.trans first.boots
  touches :=
    { durable := second.touches.durable.trans first.touches.durable
      backed := fun clock backed => second.touches.backed clock (first.touches.backed clock backed)
      others := fun other apart record present =>
        first.touches.others other apart record (second.touches.others other apart record present) }
  live other apart := (second.live other apart).trans (first.live other apart)
  issued other apart := (second.issued other apart).trans (first.issued other apart)

theorem beside_setSessions {sessions : Table LiveSession.token}
    (live : ∀ other, sessionTokenDigest other ≠ digest →
      sessions.get other = site.node.sessions.get other) :
    Beside digest site (site.setSessions sessions) :=
  ⟨id, rfl, rfl, rfl, .refl, live, fun _ _ => rfl⟩

theorem beside_setIssuedAt {issuedAt : Keyed String Instant}
    (issued : ∀ other, sessionTokenDigest other ≠ digest →
      issuedAt other = site.node.sessionIssuedAt other) :
    Beside digest site (site.setIssuedAt issuedAt) :=
  ⟨id, rfl, rfl, rfl, .refl, fun _ _ => rfl, issued⟩

theorem beside_setDurable {registry : DurableSessionRegistry}
    (touches : site.node.durableSessions.Touches digest registry) :
    Beside digest site (site.setDurable registry) :=
  ⟨id, rfl, rfl, rfl, touches, fun _ _ => rfl, fun _ _ => rfl⟩

theorem beside_mapShared {change : RedisSessions → RedisSessions} :
    Beside digest site (site.mapShared replies change) := by
  refine ⟨fun alone => ?_, ?_, ?_, ?_, ?_, ?_, ?_⟩
  all_goals unfold mapShared
  · split
    · dsimp only
      rw [alone]
      rfl
    · exact alone
  · split <;> rfl
  · split <;> rfl
  · split <;> rfl
  · split <;> exact .refl
  · split <;> exact fun _ _ => rfl
  · split <;> exact fun _ _ => rfl

theorem beside_setShared {other : String} {value : RedisSessionValue} :
    Beside digest site (site.setShared replies other value) := beside_mapShared

theorem beside_deleteShared {other : String} :
    Beside digest site (site.deleteShared replies other) := beside_mapShared

omit [Crates] in
theorem get_erase_of_ne {sessions : Table LiveSession.token} {other : String}
    (apart : other ≠ token) : (sessions.erase token).get other = sessions.get other :=
  AList.lookup_erase_ne apart

omit [Crates] in
@[simp] theorem get_erase_self {sessions : Table LiveSession.token} :
    (sessions.erase token).get token = none := by
  rw [Option.eq_none_iff_forall_ne_some]
  exact fun entry present => (Table.get_erase_eq_some_iff.mp present).1 rfl

theorem beside_insertLive {entry : LiveSession} (named : sessionTokenDigest entry.token = digest) :
    Beside digest site (site.setSessions (site.node.sessions.insert entry)) := by
  apply beside_setSessions
  intro other apart
  rw [Table.get_insert, if_neg]
  intro same
  rw [same] at apart
  exact apart named

theorem beside_eraseLive :
    Beside (sessionTokenDigest token) site
      (site.setSessions (site.node.sessions.erase token)) := by
  apply beside_setSessions
  intro other apart
  apply get_erase_of_ne
  intro same
  rw [same] at apart
  exact apart rfl

theorem beside_insertIssued {issuedAt : Instant} :
    Beside (sessionTokenDigest token) site
      (site.setIssuedAt (site.node.sessionIssuedAt.insert token issuedAt)) := by
  apply beside_setIssuedAt
  intro other apart
  apply Keyed.insert_of_ne
  intro same
  rw [same] at apart
  exact apart rfl

theorem beside_eraseIssued :
    Beside (sessionTokenDigest token) site
      (site.setIssuedAt (site.node.sessionIssuedAt.erase token)) := by
  apply beside_setIssuedAt
  intro other apart
  apply Keyed.erase_of_ne
  intro same
  rw [same] at apart
  exact apart rfl

theorem beside_removeTokens {tokens : List String}
    (named : ∀ token ∈ tokens, sessionTokenDigest token = digest) :
    Beside digest site (site.removeTokens tokens) := by
  refine ⟨id, rfl, rfl, rfl, .refl, fun other apart => ?_, fun other apart => ?_⟩
  · change (tokens.foldl Table.erase site.node.sessions).get other = _
    generalize site.node.sessions = sessions
    induction tokens generalizing sessions with
    | nil => rfl
    | cons first rest ih =>
        rw [List.foldl_cons, ih fun token listed => named token (List.mem_cons_of_mem _ listed)]
        apply get_erase_of_ne
        intro same
        rw [same] at apart
        exact apart (named first List.mem_cons_self)
  · change (tokens.foldl Keyed.erase site.node.sessionIssuedAt) other = _
    generalize site.node.sessionIssuedAt = issuedAt
    induction tokens generalizing issuedAt with
    | nil => rfl
    | cons first rest ih =>
        rw [List.foldl_cons, ih fun token listed => named token (List.mem_cons_of_mem _ listed)]
        apply Keyed.erase_of_ne
        intro same
        rw [same] at apart
        exact apart (named first List.mem_cons_self)

variable {userId : Uuid} {now expiresAt : Instant}

theorem beside_serveMint (durable : site.node.durableSessions.durable = true) {step : MintStep} :
    Beside (sessionTokenDigest token) site
      (site.serveMint .steady token userId now expiresAt step).1 := by
  cases step with
  | insertDurable => exact beside_setDurable (DurableSessionRegistry.touches_insert durable)
  | readEpoch =>
      unfold serveMint
      dsimp only
      split
      · exact Beside.refl
      · split <;> exact Beside.refl
  | put epoch =>
      change Beside _ site (site.setShared .steady _ _)
      exact beside_setShared
  | rollBack => exact beside_setDurable DurableSessionRegistry.touches_revokeByDigest
  | insertLive => exact beside_insertLive rfl
  | insertIssued => exact beside_insertIssued

theorem beside_afterCap {first : Instant} {next : ResolveStep} :
    Beside (sessionTokenDigest token) site
      (afterCap (site.capExceeded token now first) expiresAt next).1 := by
  have kept : Beside (sessionTokenDigest token) site (site.capExceeded token now first).1 := by
    unfold capExceeded
    split
    · exact Beside.refl
    · exact beside_insertIssued
  unfold afterCap
  split <;> exact kept

theorem beside_serveResolve (durable : site.node.durableSessions.durable = true)
    {step : ResolveStep} :
    Beside (sessionTokenDigest token) site
      (site.serveResolve .steady token now expiresAt step).1 := by
  cases step with
  | slideShared value =>
      change Beside _ site (site.setShared .steady _ _)
      exact beside_setShared
  | capShared userId issuedAt => exact beside_afterCap
  | touchShared userId => exact beside_insertLive rfl
  | dropLive => exact beside_eraseLive
  | dropIssued => exact beside_eraseIssued
  | probe =>
      unfold serveResolve
      dsimp only
      split
      · split
        · split <;> exact Beside.refl
        · exact beside_eraseLive
      · exact Beside.refl
  | slideLocal userId derived =>
      apply beside_setDurable
      unfold DurableSessionRegistry.slideIfPresent
      rw [if_pos durable]
      exact DurableSessionRegistry.touches_resolveAndSlide durable
  | capLocal userId issuedAt => exact beside_afterCap
  | touchLocal userId =>
      unfold serveResolve
      dsimp only
      split
      · next entry present =>
          have named : entry.token = token := Table.key_of_get present
          exact beside_insertLive (congrArg sessionTokenDigest named)
      · exact Beside.refl
  | forget => exact beside_eraseIssued
  | slideDurable =>
      exact beside_setDurable (DurableSessionRegistry.touches_resolveAndSlide durable)
  | revokeUnusable => exact beside_setDurable DurableSessionRegistry.touches_revokeByDigest
  | capDurable userId issuedAt => exact beside_afterCap
  | insertLive userId => exact beside_insertLive rfl
  | readUser userId =>
      unfold serveResolve
      dsimp only
      split
      · split <;> exact Beside.refl
      · exact Beside.refl
  | evict step =>
      cases step with
      | live => exact beside_eraseLive
      | issued => exact beside_eraseIssued
      | durable => exact beside_setDurable DurableSessionRegistry.touches_revokeByDigest
      | shared =>
          change Beside _ site (site.deleteShared .steady _)
          exact beside_deleteShared

/-! What the next section of a call is. -/

variable {call : SessionCall} {progress : InFlight}

theorem serve_arrived (arrived : progress.stage = .arrived) :
    site.serve replies call progress =
      ((site.begin_ replies call).1, ⟨site.node.boots, (site.begin_ replies call).2⟩) := by
  unfold serve
  rw [arrived]

variable {outcome : SessionOutcome}

theorem serve_finished (ended : progress.stage = .finished outcome) :
    site.serve replies call progress = (site, progress) := by
  unfold serve
  rw [ended]

theorem serve_minting {step : MintStep} (staged : progress.stage = .minting expiresAt step)
    (present : progress.boot = site.node.boots) :
    site.serve replies (.mintSession token userId now) progress =
      ((site.serveMint replies token userId now expiresAt step).1,
        ⟨progress.boot, (site.serveMint replies token userId now expiresAt step).2⟩) := by
  unfold serve
  rw [staged]
  exact if_pos present

theorem serve_resolving {step : ResolveStep} (staged : progress.stage = .resolving expiresAt step)
    (present : progress.boot = site.node.boots) :
    site.serve replies (.resolveSessionIdentity token now) progress =
      ((site.serveResolve replies token now expiresAt step).1,
        ⟨progress.boot, (site.serveResolve replies token now expiresAt step).2⟩) := by
  unfold serve
  rw [staged]
  exact if_pos present

theorem serve_revoking {step : RevokeStep} {byDevice : Bool}
    (staged : progress.stage = .revoking step) (present : progress.boot = site.node.boots) :
    site.serve replies
        (if byDevice then .revokePairingDevice digest else .revokeDigestEverywhere digest)
        progress =
      ((site.serveRevoke replies digest byDevice step).1,
        ⟨progress.boot, (site.serveRevoke replies digest byDevice step).2⟩) := by
  unfold serve
  rw [staged]
  cases byDevice <;> exact if_pos present

/-- The sections of a call, one after another, on a disk that works. -/
def sections (call : SessionCall) : Nat → SessionSite × InFlight → SessionSite × InFlight
  | 0, reached => reached
  | count + 1, reached => sections call count (reached.1.serve .steady call reached.2)

def complete (site : SessionSite) (call : SessionCall) : SessionSite × InFlight :=
  sections call (16 + site.node.sessions.size) (site, ⟨site.node.boots, .arrived⟩)

theorem sections_finished (ended : progress.stage = .finished outcome) (count : Nat) :
    sections call count (site, progress) = (site, progress) := by
  induction count with
  | zero => rfl
  | succ count ih =>
      change sections call count (site.serve .steady call progress) = _
      rw [serve_finished ended]
      exact ih

theorem complete_of_begin (ended : (site.begin_ .steady call).2 = .finished outcome) :
    site.complete call =
      ((site.begin_ .steady call).1, ⟨site.node.boots, .finished outcome⟩) := by
  unfold complete
  rw [Nat.add_comm]
  change sections call _ (site.serve .steady call ⟨site.node.boots, .arrived⟩) = _
  rw [serve_arrived rfl, ended]
  exact sections_finished rfl _

def sectionsLeft (site : SessionSite) : SessionStage → Nat
  | .arrived => 16 + site.node.sessions.size
  | .minting _ step =>
      match step with
      | .insertDurable => 5
      | .readEpoch => 4
      | .put _ => 3
      | .insertLive => 2
      | .rollBack | .insertIssued => 1
  | .resolving _ step =>
      match step with
      | .probe | .slideShared _ => 11
      | .forget => 10
      | .slideDurable | .slideLocal _ _ | .capShared _ _ => 9
      | .capLocal _ _ | .capDurable _ _ => 8
      | .touchShared _ | .touchLocal _ | .insertLive _ => 7
      | .readUser _ => 6
      | .evict .live => 4
      | .evict .issued => 3
      | .evict .durable | .dropLive => 2
      | .evict .shared | .dropIssued | .revokeUnusable => 1
  | .revoking step =>
      match step with
      | .delete => 5 + site.node.sessions.size
      | .scan => 4 + site.node.sessions.size
      | .remove tokens => 3 + tokens.length
      | .deleteEach tokens => 1 + tokens.length
  | .finished _ => 0

omit [Crates] in
theorem node_mapShared {change : RedisSessions → RedisSessions} :
    (site.mapShared replies change).node = site.node := by
  unfold mapShared
  split <;> rfl

theorem length_tokensOf_le : (site.tokensOf digest).length ≤ site.node.sessions.size := by
  unfold tokensOf
  rw [List.length_map]
  exact (List.length_filter_le _ _).trans (Nat.le_of_eq (List.length_map ..))

omit [Crates] in
theorem sectionsLeft_finished :
    after.sectionsLeft (.finished outcome) < site.sectionsLeft .arrived :=
  Nat.lt_of_lt_of_le (by decide : 0 < 16) (Nat.le_add_right _ _)

omit [Crates] in
theorem sectionsLeft_resolving {step : ResolveStep} :
    after.sectionsLeft (.resolving expiresAt step) ≤ 11 := by
  unfold sectionsLeft
  dsimp only
  split <;> decide

omit [Crates] in
theorem exists_of_sectionsLeft {stage : SessionStage} (exhausted : site.sectionsLeft stage = 0) :
    ∃ outcome, stage = .finished outcome := by
  cases stage with
  | finished outcome => exact ⟨outcome, rfl⟩
  | arrived =>
      change 16 + site.node.sessions.size = 0 at exhausted
      omega
  | minting expiresAt step =>
      unfold sectionsLeft at exhausted
      dsimp only at exhausted
      split at exhausted <;> cases exhausted
  | resolving expiresAt step =>
      unfold sectionsLeft at exhausted
      dsimp only at exhausted
      split at exhausted <;> cases exhausted
  | revoking step =>
      unfold sectionsLeft at exhausted
      dsimp only at exhausted
      split at exhausted <;> omega

theorem sectionsLeft_begin :
    (site.begin_ replies call).1.sectionsLeft (site.begin_ replies call).2 <
      site.sectionsLeft .arrived := by
  have brief : ∀ {left : Nat}, left ≤ 11 → left < 16 + site.node.sessions.size := by
    intro left few
    omega
  cases call with
  | mintSession token userId now =>
      unfold begin_
      dsimp only
      split
      · exact sectionsLeft_finished
      · split
        · exact brief (by decide : 5 ≤ 11)
        · exact brief (by decide : 4 ≤ 11)
  | resolveSessionIdentity token now =>
      unfold begin_
      dsimp only
      split
      · exact sectionsLeft_finished
      · split
        · exact brief sectionsLeft_resolving
        · exact brief sectionsLeft_resolving
  | revokeDigestEverywhere digest => exact Nat.add_lt_add_right (by decide) _
  | revokePairingDevice digest =>
      unfold begin_
      dsimp only
      split
      · exact Nat.add_lt_add_right (by decide) _
      · exact sectionsLeft_finished
  | setUser userId user => exact sectionsLeft_finished
  | applySessionRevoked digest => exact sectionsLeft_finished
  | clearAll => exact sectionsLeft_finished
  | expire digest => exact sectionsLeft_finished
  | restart now => exact sectionsLeft_finished

omit [Crates] in
theorem sectionsLeft_afterCap {checked : SessionSite × Option Bool} {next : ResolveStep}
    (few : after.sectionsLeft (.resolving expiresAt next) ≤ 7) :
    (afterCap checked expiresAt next).1.sectionsLeft (afterCap checked expiresAt next).2 < 8 := by
  unfold afterCap
  split
  · exact (by decide : 0 < 8)
  · exact (by decide : 4 < 8)
  · exact Nat.lt_succ_of_le few

theorem sectionsLeft_serveResolve {step : ResolveStep} :
    (site.serveResolve replies token now expiresAt step).1.sectionsLeft
        (site.serveResolve replies token now expiresAt step).2 <
      site.sectionsLeft (.resolving expiresAt step) := by
  cases step with
  | slideShared value =>
      unfold serveResolve
      dsimp only
      split
      · exact (by decide : 2 < 11)
      · exact (by decide : 9 < 11)
  | capShared userId issuedAt =>
      exact (@sectionsLeft_afterCap site _ _ (.touchShared userId) (Nat.le_refl 7)).trans
        (by decide : 8 < 9)
  | capLocal userId issuedAt =>
      exact @sectionsLeft_afterCap site _ _ (.touchLocal userId) (Nat.le_refl 7)
  | capDurable userId issuedAt =>
      exact @sectionsLeft_afterCap site _ _ (.insertLive userId) (Nat.le_refl 7)
  | touchShared userId => exact (by decide : 6 < 7)
  | dropLive => exact (by decide : 1 < 2)
  | dropIssued => exact (by decide : 0 < 1)
  | probe =>
      unfold serveResolve
      dsimp only
      split
      · split
        · split
          · exact (by decide : 0 < 11)
          · exact (by decide : 9 < 11)
        · exact (by decide : 10 < 11)
      · exact (by decide : 10 < 11)
  | slideLocal userId derived =>
      unfold serveResolve
      dsimp only
      split
      · exact (by decide : 0 < 9)
      · exact (by decide : 8 < 9)
      · split
        · exact (by decide : 8 < 9)
        · exact (by decide : 4 < 9)
  | touchLocal userId => exact (by decide : 6 < 7)
  | forget => exact (by decide : 9 < 10)
  | slideDurable =>
      unfold serveResolve
      dsimp only
      split
      · exact (by decide : 0 < 9)
      · exact (by decide : 0 < 9)
      · split
        · exact (by decide : 1 < 9)
        · exact (by decide : 8 < 9)
  | revokeUnusable => exact (by decide : 0 < 1)
  | insertLive userId => exact (by decide : 6 < 7)
  | readUser userId =>
      unfold serveResolve
      dsimp only
      split
      · split
        · exact (by decide : 0 < 6)
        · exact (by decide : 4 < 6)
      · exact (by decide : 4 < 6)
  | evict step =>
      cases step with
      | live => exact (by decide : 3 < 4)
      | issued => exact (by decide : 2 < 3)
      | durable => exact (by decide : 1 < 2)
      | shared => exact (by decide : 0 < 1)

theorem sectionsLeft_serveMint {step : MintStep} :
    (site.serveMint replies token userId now expiresAt step).1.sectionsLeft
        (site.serveMint replies token userId now expiresAt step).2 <
      site.sectionsLeft (.minting expiresAt step) := by
  cases step with
  | insertDurable =>
      unfold serveMint
      dsimp only
      split
      · exact (by decide : 4 < 5)
      · exact (by decide : 0 < 5)
  | readEpoch =>
      unfold serveMint
      dsimp only
      split
      · exact (by decide : 2 < 4)
      · split
        · exact (by decide : 3 < 4)
        · exact (by decide : 1 < 4)
  | put epoch =>
      unfold serveMint
      dsimp only
      split
      · exact (by decide : 2 < 3)
      · exact (by decide : 1 < 3)
  | rollBack => exact (by decide : 0 < 1)
  | insertLive => exact (by decide : 1 < 2)
  | insertIssued => exact (by decide : 0 < 1)

theorem sectionsLeft_serveRevoke {byDevice : Bool} {step : RevokeStep} :
    (site.serveRevoke replies digest byDevice step).1.sectionsLeft
        (site.serveRevoke replies digest byDevice step).2 <
      site.sectionsLeft (.revoking step) := by
  cases step with
  | delete =>
      change 4 + (site.deleteShared replies digest).node.sessions.size < 5 + _
      unfold deleteShared
      rw [node_mapShared]
      omega
  | scan =>
      have few := @length_tokensOf_le _ site digest
      unfold serveRevoke
      dsimp only
      split
      · change 0 < 4 + _
        omega
      · next first tokens found =>
          rw [found] at few
          change 3 + (first :: tokens).length < 4 + _
          omega
  | remove tokens =>
      unfold serveRevoke
      dsimp only
      split
      · change 1 + tokens.length < 3 + tokens.length
        omega
      · change 0 < 3 + tokens.length
        omega
  | deleteEach tokens =>
      cases tokens with
      | nil => exact (by decide : 0 < 1)
      | cons first tokens =>
          change 1 + tokens.length < 1 + (tokens.length + 1)
          omega

theorem sectionsLeft_serve (underway : 0 < site.sectionsLeft progress.stage) :
    (site.serve replies call progress).1.sectionsLeft
        (site.serve replies call progress).2.stage < site.sectionsLeft progress.stage := by
  have step := served site replies call progress
  generalize site.serve replies call progress = result at step ⊢
  cases step with
  | finished outcome ended =>
      rw [ended] at underway
      exact absurd underway (Nat.lt_irrefl 0)
  | begun arrived =>
      rw [arrived]
      exact sectionsLeft_begin
  | minting token userId now expiresAt step called staged present =>
      rw [staged]
      exact sectionsLeft_serveMint
  | resolving token now newExpiresAt step called staged present =>
      rw [staged]
      exact sectionsLeft_serveResolve
  | revoking digest byDevice step called staged present =>
      rw [staged]
      exact sectionsLeft_serveRevoke
  | dropped outcome fruitless => exact underway

theorem complete_induction {holds : SessionSite → InFlight → Prop}
    (initial : holds site ⟨site.node.boots, .arrived⟩)
    (kept : ∀ site progress, holds site progress →
      holds (site.serve .steady call progress).1 (site.serve .steady call progress).2) :
    holds (site.complete call).1 (site.complete call).2 := by
  have every : ∀ count site progress, holds site progress →
      holds (sections call count (site, progress)).1 (sections call count (site, progress)).2 := by
    intro count
    induction count with
    | zero => exact fun site progress held => held
    | succ count ih => exact fun site progress held => ih _ _ (kept site progress held)
  exact every _ site _ initial

/-- **A call run to its last section has ended.** -/
theorem complete_finished : ∃ outcome, (site.complete call).2.stage = .finished outcome := by
  have ended : ∀ count site progress, site.sectionsLeft progress.stage ≤ count →
      ∃ outcome, (sections call count (site, progress)).2.stage = .finished outcome := by
    intro count
    induction count with
    | zero => exact fun site progress few => exists_of_sectionsLeft (Nat.le_zero.mp few)
    | succ count ih =>
        intro site progress few
        rcases Nat.eq_zero_or_pos (site.sectionsLeft progress.stage) with exhausted | underway
        · obtain ⟨outcome, same⟩ := exists_of_sectionsLeft exhausted
          change ∃ outcome, (sections call count (site.serve .steady call progress)).2.stage = _
          rw [serve_finished same]
          apply ih
          rw [exhausted]
          exact Nat.zero_le count
        · exact ih _ _ (Nat.le_of_lt_succ (Nat.lt_of_lt_of_le (sectionsLeft_serve underway) few))
  exact ended _ site _ (Nat.le_refl _)

end SessionSite

end Chancela
