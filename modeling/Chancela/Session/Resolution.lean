import Chancela.Session.Grants
import Chancela.Session.Sequence

/-! # One resolution, section by section

What a durable node keeps under a token is vouched for by what is granted. Each section of a
resolution finds an outline that the one before it has left; from the outline of the last one it
follows how the resolution ends, and that what is kept then is vouched for again
(`Chancela.SessionSite.settled_complete`).
-/

namespace Chancela

variable [Crates]

/-- What a site keeps under a token is what is granted: a live session, a record, and, until a
restart, the live session as long as it may stay unseen. -/
structure SessionSite.Vouched (site : SessionSite) (token : String) (clock : Instant)
    (granted : Option Grant) : Prop where
  utc : ∀ grant, granted = some grant → grant.mintedAt.offset = 0
  live : ∀ entry, site.node.sessions.get token = some entry →
    ∃ grant, granted = some grant ∧ grant.Carries entry (site.node.sessionIssuedAt token)
  record : ∀ record,
    site.node.durableSessions.records.get (sessionTokenDigest token) = some record →
      ∃ grant, granted = some grant ∧ grant.Names record ∧
        (grant.Bounded site.node.sessionMaxLifetime → grant.Ends record)
  kept : ∀ grant, granted = some grant → grant.restarted = false → site.Absent token →
    grant.Unseen clock

namespace SessionSite

variable {site after : SessionSite} {token digest : String} {clock now expiresAt : Instant}
  {granted : Option Grant}

theorem Vouched.of_le (vouched : site.Vouched token clock granted) (later : clock ≤ now) :
    site.Vouched token now granted where
  utc := vouched.utc
  live := vouched.live
  record := vouched.record
  kept grant held undisturbed absent :=
    Int.le_trans (vouched.kept grant held undisturbed absent) later

theorem Vouched.beside (vouched : site.Vouched token clock granted)
    (beside : Beside digest site after) (apart : sessionTokenDigest token ≠ digest) :
    after.Vouched token clock granted where
  utc := vouched.utc
  live entry present := by
    rw [beside.live token apart] at present
    rw [beside.issued token apart]
    exact vouched.live entry present
  record record present := by
    rw [beside.lifetime]
    exact vouched.record record (beside.touches.others _ apart record present)
  kept grant held undisturbed absent := by
    unfold Absent at absent
    rw [beside.live token apart] at absent
    exact vouched.kept grant held undisturbed absent

theorem vouched_none (absent : site.Absent token)
    (unrecorded : site.node.durableSessions.records.get (sessionTokenDigest token) = none) :
    site.Vouched token clock none where
  utc grant held := by cases held
  live entry present := by
    unfold Absent at absent
    rw [absent] at present
    cases present
  record record present := by
    rw [unrecorded] at present
    cases present
  kept grant held := by cases held

/-- The instant is within the absolute lifetime of the grant, whose end is representable. -/
structure Lasts (site : SessionSite) (now : Instant) (grant : Grant) : Prop where
  bounded : grant.Bounded site.node.sessionMaxLifetime
  before : now.nanos < grant.mintedAt.nanos + Duration.seconds site.node.sessionMaxLifetime

/-- What is granted has less than a second left, or its user is not active. -/
def Overdue (site : SessionSite) (now : Instant) (granted : Option Grant) : Prop :=
  ∀ grant, granted = some grant →
    (∀ user, site.node.users grant.userId = some user → user.active = false) ∨
      grant.mintedAt.nanos + Duration.seconds site.node.sessionMaxLifetime <
        now.nanos + 1000000000

/-- The record, if there is one, is that of the grant and has been slid. -/
def Slid (site : SessionSite) (token : String) (expiresAt : Instant) (grant : Grant) : Prop :=
  ∀ record, site.node.durableSessions.records.get (sessionTokenDigest token) = some record →
    grant.Names record ∧ record.expiresAtUnix = expiresAt.unixTimestamp

/-- The resolution has found the live session. -/
structure Seen (site : SessionSite) (token : String) (now expiresAt : Instant) (userId : Uuid)
    (grant : Grant) (entry : LiveSession) : Prop where
  utc : grant.mintedAt.offset = 0
  present : site.node.sessions.get token = some entry
  carries : grant.Carries entry (site.node.sessionIssuedAt token)
  userId : entry.userId = userId
  unexpired : now < entry.expiresAt
  slid : site.Slid token expiresAt grant

/-- The resolution has found the durable record. -/
structure Restored (site : SessionSite) (token : String) (now expiresAt : Instant)
    (userId : Uuid) (grant : Grant) : Prop where
  utc : grant.mintedAt.offset = 0
  userId : grant.userId = userId
  absent : site.Absent token
  kept : grant.restarted = false → grant.Unseen now
  recent : grant.Bounded site.node.sessionMaxLifetime → ¬grant.Unseen now
  slid : site.Slid token expiresAt grant

def Outline (site : SessionSite) (token : String) (now expiresAt : Instant)
    (granted : Option Grant) : ResolveStep → Prop
  | .probe => site.Vouched token now granted
  | .slideLocal userId _ =>
      site.Vouched token now granted ∧ ∃ entry, site.node.sessions.get token = some entry ∧
        entry.userId = userId ∧ now < entry.expiresAt
  | .capLocal userId _ =>
      ∃ grant entry, granted = some grant ∧ site.Seen token now expiresAt userId grant entry
  | .touchLocal userId =>
      ∃ grant entry, granted = some grant ∧ site.Seen token now expiresAt userId grant entry ∧
        site.Lasts now grant
  | .forget => site.Vouched token now granted ∧ site.Absent token
  | .slideDurable =>
      site.Vouched token now granted ∧ site.Absent token ∧
        site.node.sessionIssuedAt token = none
  | .capDurable userId issuedAt =>
      ∃ grant, granted = some grant ∧ site.Restored token now expiresAt userId grant ∧
        site.node.sessionIssuedAt token = none ∧ grant.IssuedAt issuedAt
  | .insertLive userId =>
      ∃ grant, granted = some grant ∧ site.Restored token now expiresAt userId grant ∧
        site.Lasts now grant ∧
        ∃ issuedAt, site.node.sessionIssuedAt token = some issuedAt ∧ grant.IssuedAt issuedAt
  | .readUser userId =>
      ∃ grant, granted = some grant ∧ grant.userId = userId ∧ site.Lasts now grant ∧
        ¬grant.Unseen now ∧
        site.Vouched token now (some { grant with seenAt := now, restarted := false })
  | .evict .live => site.Overdue now granted
  | .evict .issued | .evict .durable => site.Overdue now granted ∧ site.Absent token
  | .evict .shared =>
      site.Overdue now granted ∧ site.Absent token ∧
        site.node.durableSessions.records.get (sessionTokenDigest token) = none
  | _ => False

def Settled (site : SessionSite) (token : String) (now : Instant) (granted : Option Grant) :
    SessionOutcome → Prop
  | .authenticated userId username =>
      ∃ grant, granted = some grant ∧ grant.userId = userId ∧ site.Lasts now grant ∧
        ¬grant.Unseen now ∧ site.node.users userId = some ⟨username, true⟩ ∧
        (now.checkedAdd (Duration.seconds sessionTtlSecs)).isSome = true ∧
        site.Vouched token now (some { grant with seenAt := now, restarted := false })
  | .rejected =>
      site.Vouched token now granted ∧
        ∀ grant, granted = some grant → grant.restarted = false → grant.Unseen now
  | .evicted => site.Overdue now granted ∧ site.Vouched token now none
  | .panicked =>
      site.Vouched token now granted ∧
        ∀ grant, granted = some grant → grant.Bounded site.node.sessionMaxLifetime →
          now.checkedAdd (Duration.seconds sessionTtlSecs) = none
  | _ => False

def Resolved (token : String) (now expiresAt : Instant) (granted : Option Grant)
    (result : SessionSite × SessionStage) : Prop :=
  match result.2 with
  | .resolving slides step =>
      slides = expiresAt ∧ result.1.Outline token now expiresAt granted step
  | .finished outcome => result.1.Settled token now granted outcome
  | _ => False

variable {grant : Grant} {userId : Uuid} {entry : LiveSession}

theorem Seen.vouched (seen : site.Seen token now expiresAt userId grant entry)
    (unbounded : ¬grant.Bounded site.node.sessionMaxLifetime) :
    site.Vouched token now (some grant) where
  utc held same := by
    obtain rfl := Option.some.inj same
    exact seen.utc
  live other present := by
    obtain rfl := Option.some.inj (seen.present.symm.trans present)
    exact ⟨grant, rfl, seen.carries⟩
  record record present :=
    ⟨grant, rfl, (seen.slid record present).1, fun bounded => absurd bounded unbounded⟩
  kept held _ _ absent := by
    unfold Absent at absent
    rw [seen.present] at absent
    cases absent

theorem Restored.vouched (restored : site.Restored token now expiresAt userId grant)
    (unbounded : ¬grant.Bounded site.node.sessionMaxLifetime) :
    site.Vouched token now (some grant) where
  utc held same := by
    obtain rfl := Option.some.inj same
    exact restored.utc
  live other present := by
    have absent := restored.absent
    unfold Absent at absent
    rw [absent] at present
    cases present
  record record present :=
    ⟨grant, rfl, (restored.slid record present).1, fun bounded => absurd bounded unbounded⟩
  kept held same undisturbed _ := by
    obtain rfl := Option.some.inj same
    exact restored.kept undisturbed

theorem vouched_renewed (utc : grant.mintedAt.offset = 0)
    (slides : now.checkedAdd (Duration.seconds sessionTtlSecs) = some expiresAt)
    (present : site.node.sessions.get token = some entry) (userId : entry.userId = grant.userId)
    (fresh : entry.expiresAt = expiresAt)
    (pinned : ∃ issuedAt, site.node.sessionIssuedAt token = some issuedAt ∧ grant.IssuedAt issuedAt)
    (slid : site.Slid token expiresAt grant) : site.Vouched token now (some { grant with seenAt := now, restarted := false }) where
  utc held same := by
    obtain rfl := Option.some.inj same
    exact utc
  live other found := by
    obtain rfl := Option.some.inj (present.symm.trans found)
    obtain ⟨issuedAt, held, issued⟩ := pinned
    exact ⟨_, rfl, userId, fresh ▸ slides, issuedAt, held, issued.utc, issued.nanos⟩
  record record found := by
    obtain ⟨names, expires⟩ := slid record found
    refine ⟨_, rfl, ⟨names.userId, names.issuedAt⟩, fun _ => ?_⟩
    rw [Grant.Ends, expires, Instant.unixTimestamp, Instant.nanos_checkedAdd slides]
  kept held _ _ absent := by
    unfold Absent at absent
    rw [present] at absent
    cases absent

theorem resolved_probe (vouched : site.Vouched token now granted) :
    Resolved token now expiresAt granted
      (site.serveResolve .steady token now expiresAt .probe) := by
  unfold serveResolve
  dsimp only
  split
  · next entry present =>
      obtain ⟨grant, held, carries⟩ := vouched.live entry present
      split
      · next unexpired =>
          have back : (entry.expiresAt.checkedAdd (-Duration.seconds sessionTtlSecs)).isSome =
              true := by
            obtain ⟨local_, -⟩ := Instant.ofLocal_eq_some carries.expiresAt
            have inRange := grant.seenAt.representable
            rw [Instant.isSome_checkedAdd, local_]
            omega
          split
          · next missing =>
              rw [missing] at back
              cases back
          · next derived found => exact ⟨rfl, vouched, entry, present, rfl, unexpired⟩
      · next expired =>
          have past := Instant.not_lt.mp expired
          rw [Instant.le_def, Instant.nanos_checkedAdd carries.expiresAt] at past
          refine ⟨rfl, ⟨vouched.utc, fun other found => ?_, vouched.record, ?_⟩, get_erase_self⟩
          · have found : (site.node.sessions.erase token).get token = some other := found
            rw [get_erase_self] at found
            cases found
          · intro other same _ _
            obtain rfl := Option.some.inj (held.symm.trans same)
            exact past
  · next missing => exact ⟨rfl, vouched, missing⟩

theorem resolved_slideLocal {derived : Instant} (durable : site.node.durableSessions.durable = true)
    (vouched : site.Vouched token now granted) (present : site.node.sessions.get token = some entry)
    (named : entry.userId = userId) (unexpired : now < entry.expiresAt) :
    Resolved token now expiresAt granted
      (site.serveResolve .steady token now expiresAt (.slideLocal userId derived)) := by
  obtain ⟨grant, held, carries⟩ := vouched.live entry present
  unfold serveResolve DurableSessionRegistry.slideIfPresent
  dsimp only
  rw [if_pos durable]
  rcases @DurableSessionRegistry.resolveAndSlide_cases site.node.durableSessions _ token now
    expiresAt with ⟨outcome, gone⟩ | ⟨record, found, -, outcome, slid⟩
  · simp only [SiteReplies.steady_write, outcome]
    refine ⟨rfl, grant, entry, held, vouched.utc grant held, present, carries, named, unexpired,
      fun record found => ?_⟩
    have found : (site.node.durableSessions.resolveAndSlide token now expiresAt
      .done).1.records.get (sessionTokenDigest token) = some record := found
    rw [gone] at found
    cases found
  · simp only [SiteReplies.steady_write]
    obtain ⟨other, same, names, -⟩ := vouched.record record found
    obtain rfl := Option.some.inj (held.symm.trans same)
    have owner : record.userId = userId := names.userId.trans (carries.userId.symm.trans named)
    rw [outcome]
    dsimp only
    rw [if_pos owner]
    refine ⟨rfl, grant, entry, held, vouched.utc grant held, present, carries, named, unexpired,
      fun other found => ?_⟩
    have found : (site.node.durableSessions.resolveAndSlide token now expiresAt
      .done).1.records.get (sessionTokenDigest token) = some other := found
    rw [slid] at found
    obtain rfl := Option.some.inj found
    exact ⟨⟨names.userId, names.issuedAt⟩, rfl⟩

theorem resolved_slideDurable (vouched : site.Vouched token now granted)
    (absent : site.Absent token)
    (unpinned : site.node.sessionIssuedAt token = none) :
    Resolved token now expiresAt granted
      (site.serveResolve .steady token now expiresAt .slideDurable) := by
  unfold serveResolve
  dsimp only
  rcases @DurableSessionRegistry.resolveAndSlide_cases site.node.durableSessions _ token now
    expiresAt with ⟨outcome, gone⟩ | ⟨record, found, unexpired, outcome, slid⟩
  · simp only [SiteReplies.steady_write, outcome]
    refine ⟨⟨vouched.utc, vouched.live, fun record found => ?_, vouched.kept⟩, ?_⟩
    · have found : (site.node.durableSessions.resolveAndSlide token now expiresAt
        .done).1.records.get (sessionTokenDigest token) = some record := found
      rw [gone] at found
      cases found
    · exact fun grant held undisturbed => vouched.kept grant held undisturbed absent
  · simp only [SiteReplies.steady_write]
    obtain ⟨grant, held, names, ends⟩ := vouched.record record found
    have utc := vouched.utc grant held
    rw [outcome]
    dsimp only
    obtain ⟨issuedAt, second, issued⟩ := names.exists_issuedAt utc
    rw [second]
    refine ⟨rfl, grant, held, ⟨utc, names.userId.symm, absent,
      fun undisturbed => vouched.kept grant held undisturbed absent, fun bounded past => ?_,
      fun other found => ?_⟩, unpinned, issued⟩
    · have ended := ends bounded
      unfold Grant.Ends at ended
      unfold Grant.Unseen at past
      unfold Instant.unixTimestamp at unexpired
      omega
    · have found : (site.node.durableSessions.resolveAndSlide token now expiresAt
        .done).1.records.get (sessionTokenDigest token) = some other := found
      rw [slid] at found
      obtain rfl := Option.some.inj found
      exact ⟨⟨names.userId, names.issuedAt⟩, rfl⟩

theorem resolved_afterCap {first issuedAt : Instant} {next : ResolveStep}
    (positive : 0 < site.node.sessionMaxLifetime) (utc : grant.mintedAt.offset = 0)
    (pinned : (site.node.sessionIssuedAt token).getD first = issuedAt)
    (issued : grant.IssuedAt issuedAt) (held : granted = some grant)
    (vouched : ¬grant.Bounded site.node.sessionMaxLifetime →
      Vouched (site.setIssuedAt (site.node.sessionIssuedAt.insert token issuedAt)) token now
        (some grant))
    (outlined : site.Lasts now grant →
      Outline (site.setIssuedAt (site.node.sessionIssuedAt.insert token issuedAt)) token now
        expiresAt granted next) :
    Resolved token now expiresAt granted
      (afterCap (site.capExceeded token now first) expiresAt next) := by
  have least := issued.least
  have close := issued.close
  have bounded := issued.bounded_iff utc positive
  have checked : site.capExceeded token now first =
      (site.setIssuedAt (site.node.sessionIssuedAt.insert token issuedAt),
        (issuedAt.checkedAdd (Duration.seconds site.node.sessionMaxLifetime)).map fun end_ =>
          decide (end_ ≤ now)) := by
    unfold capExceeded
    rw [if_neg (Int.not_le.mpr positive), pinned]
  rw [checked]
  unfold Resolved afterCap
  dsimp only
  cases sum : issuedAt.checkedAdd (Duration.seconds site.node.sessionMaxLifetime) with
  | none =>
      rw [sum] at bounded
      have unbounded : ¬grant.Bounded site.node.sessionMaxLifetime := fun held => by
        cases bounded.mpr held
      rw [held]
      refine ⟨vouched unbounded, fun other same bounded => ?_⟩
      obtain rfl := Option.some.inj same
      exact absurd bounded unbounded
  | some end_ =>
      rw [sum] at bounded
      have end_nanos := Instant.nanos_checkedAdd sum
      by_cases elapsed : end_ ≤ now
      · rw [Option.map_some, decide_eq_true elapsed]
        rw [Instant.le_def] at elapsed
        have past : grant.mintedAt.nanos + Duration.seconds site.node.sessionMaxLifetime <
            now.nanos + 1000000000 := by omega
        refine ⟨rfl, fun other same => .inr ?_⟩
        obtain rfl := Option.some.inj (held.symm.trans same)
        exact past
      · rw [Option.map_some, decide_eq_false elapsed]
        rw [Instant.le_def] at elapsed
        exact ⟨rfl, outlined ⟨bounded.mp rfl, by omega⟩⟩

theorem resolved_capLocal {first : Instant} (positive : 0 < site.node.sessionMaxLifetime)
    (held : granted = some grant) (seen : site.Seen token now expiresAt userId grant entry) :
    Resolved token now expiresAt granted
      (site.serveResolve .steady token now expiresAt (.capLocal userId first)) := by
  obtain ⟨issuedAt, pinned, issued⟩ := seen.carries.pinned
  have kept : Seen (site.setIssuedAt (site.node.sessionIssuedAt.insert token issuedAt)) token now
      expiresAt userId grant entry :=
    ⟨seen.utc, seen.present, ⟨seen.carries.userId, seen.carries.expiresAt, issuedAt,
      Keyed.insert_self, issued⟩, seen.userId, seen.unexpired, seen.slid⟩
  exact resolved_afterCap positive seen.utc (by rw [pinned, Option.getD_some]) issued held
    kept.vouched fun lasts => ⟨grant, entry, held, kept, lasts.bounded, lasts.before⟩

theorem resolved_capDurable {issuedAt : Instant}
    (positive : 0 < site.node.sessionMaxLifetime) (held : granted = some grant)
    (restored : site.Restored token now expiresAt userId grant)
    (unpinned : site.node.sessionIssuedAt token = none) (issued : grant.IssuedAt issuedAt) :
    Resolved token now expiresAt granted
      (site.serveResolve .steady token now expiresAt (.capDurable userId issuedAt)) := by
  have kept : Restored (site.setIssuedAt (site.node.sessionIssuedAt.insert token issuedAt)) token
      now expiresAt userId grant :=
    ⟨restored.utc, restored.userId, restored.absent, restored.kept, restored.recent,
      restored.slid⟩
  exact resolved_afterCap positive restored.utc (by rw [unpinned, Option.getD_none]) issued held
    kept.vouched fun lasts =>
      ⟨grant, held, kept, ⟨lasts.bounded, lasts.before⟩, issuedAt, Keyed.insert_self, issued⟩

theorem resolved_touchLocal
    (slides : now.checkedAdd (Duration.seconds sessionTtlSecs) = some expiresAt)
    (held : granted = some grant) (seen : site.Seen token now expiresAt userId grant entry)
    (lasts : site.Lasts now grant) :
    Resolved token now expiresAt granted
      (site.serveResolve .steady token now expiresAt (.touchLocal userId)) := by
  have named : entry.token = token := Table.key_of_get seen.present
  have recent : ¬grant.Unseen now := by
    have unexpired := seen.unexpired
    rw [Instant.lt_def, Instant.nanos_checkedAdd seen.carries.expiresAt] at unexpired
    exact Int.not_le.mpr unexpired
  unfold serveResolve
  rw [seen.present]
  refine ⟨rfl, grant, held, seen.carries.userId.symm.trans seen.userId,
    ⟨lasts.bounded, lasts.before⟩, recent, ?_⟩
  refine vouched_renewed seen.utc slides (?_ : _ = some { entry with expiresAt }) ?_ ?_ ?_ ?_
  · change (site.node.sessions.insert { entry with expiresAt }).get token = _
    rw [Table.get_insert, if_pos named.symm]
  · exact seen.carries.userId
  · rfl
  · exact seen.carries.pinned
  · exact seen.slid

theorem resolved_insertLive (slides : now.checkedAdd (Duration.seconds sessionTtlSecs) =
      some expiresAt)
    (held : granted = some grant) (restored : site.Restored token now expiresAt userId grant)
    (lasts : site.Lasts now grant)
    (pinned : ∃ issuedAt, site.node.sessionIssuedAt token = some issuedAt ∧
      grant.IssuedAt issuedAt) :
    Resolved token now expiresAt granted
      (site.serveResolve .steady token now expiresAt (.insertLive userId)) := by
  refine ⟨rfl, grant, held, restored.userId, ⟨lasts.bounded, lasts.before⟩,
    restored.recent lasts.bounded, ?_⟩
  refine vouched_renewed restored.utc slides (?_ : _ = some ⟨token, userId, expiresAt⟩) ?_ ?_ ?_ ?_
  · change (site.node.sessions.insert ⟨token, userId, expiresAt⟩).get token = _
    rw [Table.get_insert, if_pos rfl]
  · exact restored.userId.symm
  · rfl
  · exact pinned
  · exact restored.slid

theorem resolved_readUser (slides : now.checkedAdd (Duration.seconds sessionTtlSecs) =
      some expiresAt)
    (held : granted = some grant) (owner : grant.userId = userId) (lasts : site.Lasts now grant)
    (recent : ¬grant.Unseen now)
    (renewed : site.Vouched token now (some { grant with seenAt := now, restarted := false })) :
    Resolved token now expiresAt granted
      (site.serveResolve .steady token now expiresAt (.readUser userId)) := by
  have representable : (now.checkedAdd (Duration.seconds sessionTtlSecs)).isSome = true := by
    rw [slides]
    rfl
  unfold serveResolve
  dsimp only
  cases known : site.node.users userId with
  | none =>
      refine ⟨rfl, fun other same => .inl fun user found => ?_⟩
      obtain rfl := Option.some.inj (held.symm.trans same)
      rw [owner, known] at found
      cases found
  | some user =>
      dsimp only
      cases active : user.active with
      | true =>
          rw [if_pos rfl]
          refine ⟨grant, held, owner, lasts, recent, ?_, representable, renewed⟩
          rw [known, ← active]
      | false =>
          rw [if_neg Bool.false_ne_true]
          refine ⟨rfl, fun other same => .inl fun another found => ?_⟩
          obtain rfl := Option.some.inj (held.symm.trans same)
          rw [owner, known] at found
          obtain rfl := Option.some.inj found
          exact active

theorem resolved_evict {step : EvictStep} (durable : site.node.durableSessions.durable = true)
    (outline : site.Outline token now expiresAt granted (.evict step)) :
    Resolved token now expiresAt granted
      (site.serveResolve .steady token now expiresAt (.evict step)) := by
  cases step with
  | live => exact ⟨rfl, outline, get_erase_self⟩
  | issued => exact ⟨rfl, outline⟩
  | durable =>
      exact ⟨rfl, outline.1, outline.2, DurableSessionRegistry.get_revokeByDigest durable⟩
  | shared => exact ⟨outline.1, vouched_none outline.2.1 outline.2.2⟩

/-- **What a section of a resolution makes of its outline.** -/
theorem resolved_serveResolve {step : ResolveStep}
    (durable : site.node.durableSessions.durable = true)
    (positive : 0 < site.node.sessionMaxLifetime)
    (slides : now.checkedAdd (Duration.seconds sessionTtlSecs) = some expiresAt)
    (outline : site.Outline token now expiresAt granted step) :
    Resolved token now expiresAt granted
      (site.serveResolve .steady token now expiresAt step) := by
  cases step with
  | probe => exact resolved_probe outline
  | slideLocal userId derived =>
      obtain ⟨vouched, entry, present, named, unexpired⟩ := outline
      exact resolved_slideLocal durable vouched present named unexpired
  | capLocal userId first =>
      obtain ⟨grant, entry, held, seen⟩ := outline
      exact resolved_capLocal positive held seen
  | touchLocal userId =>
      obtain ⟨grant, entry, held, seen, lasts⟩ := outline
      exact resolved_touchLocal slides held seen lasts
  | forget =>
      obtain ⟨vouched, absent⟩ := outline
      refine ⟨rfl, ⟨vouched.utc, fun entry present => ?_, vouched.record, vouched.kept⟩, absent,
        Keyed.erase_self⟩
      have present : site.node.sessions.get token = some entry := present
      unfold Absent at absent
      rw [absent] at present
      cases present
  | slideDurable =>
      obtain ⟨vouched, absent, unpinned⟩ := outline
      exact resolved_slideDurable vouched absent unpinned
  | capDurable userId issuedAt =>
      obtain ⟨grant, held, restored, unpinned, issued⟩ := outline
      exact resolved_capDurable positive held restored unpinned issued
  | insertLive userId =>
      obtain ⟨grant, held, restored, lasts, pinned⟩ := outline
      exact resolved_insertLive slides held restored lasts pinned
  | readUser userId =>
      obtain ⟨grant, held, owner, lasts, recent, renewed⟩ := outline
      exact resolved_readUser slides held owner lasts recent renewed
  | evict step => exact resolved_evict durable outline
  | slideShared value => exact absurd outline id
  | capShared userId issuedAt => exact absurd outline id
  | touchShared userId => exact absurd outline id
  | dropLive => exact absurd outline id
  | dropIssued => exact absurd outline id
  | revokeUnusable => exact absurd outline id

/-- A durable node that shares no store, whose cap is not disabled. -/
structure Alone (site : SessionSite) : Prop where
  alone : site.shared = none
  durable : site.node.durableSessions.durable = true
  positive : 0 < site.node.sessionMaxLifetime

theorem Alone.beside {after : SessionSite} {digest : String} (alone : site.Alone)
    (beside : Beside digest site after) : after.Alone where
  alone := beside.alone alone.alone
  durable := beside.touches.durable.trans alone.durable
  positive := by
    rw [beside.lifetime]
    exact alone.positive

/-- What holds between the sections of a resolution. -/
structure Resolution (start : SessionSite) (token : String) (now : Instant)
    (granted : Option Grant) (site : SessionSite) (progress : InFlight) : Prop where
  beside : Beside (sessionTokenDigest token) start site
  present : progress.boot = site.node.boots
  outline : match progress.stage with
    | .arrived => site.Vouched token now granted
    | .resolving expiresAt step =>
        now.checkedAdd (Duration.seconds sessionTtlSecs) = some expiresAt ∧
          site.Outline token now expiresAt granted step
    | .finished outcome => site.Settled token now granted outcome
    | _ => False

theorem resolution_serve {start : SessionSite} {progress : InFlight} (alone : start.Alone)
    (resolution : Resolution start token now granted site progress) :
    Resolution start token now granted
      (site.serve .steady (.resolveSessionIdentity token now) progress).1
      (site.serve .steady (.resolveSessionIdentity token now) progress).2 := by
  have here := alone.beside resolution.beside
  have outline := resolution.outline
  cases staged : progress.stage with
  | finished outcome =>
      rw [serve_finished staged]
      exact resolution
  | arrived =>
      rw [staged] at outline
      rw [serve_arrived staged]
      unfold begin_
      dsimp only
      cases slides : now.checkedAdd (Duration.seconds sessionTtlSecs) with
      | none => exact ⟨resolution.beside, rfl, outline, fun _ _ _ => slides⟩
      | some newExpiresAt =>
          dsimp only
          rw [here.alone]
          exact ⟨resolution.beside, rfl, slides, outline⟩
  | resolving newExpiresAt step =>
      rw [staged] at outline
      obtain ⟨slides, outline⟩ := outline
      have resolved := resolved_serveResolve here.durable here.positive slides outline
      have beside := @beside_serveResolve _ site token now newExpiresAt here.durable step
      rw [serve_resolving staged resolution.present]
      refine ⟨resolution.beside.trans beside, resolution.present.trans beside.boots.symm, ?_⟩
      unfold Resolved at resolved
      dsimp only
      split at resolved
      · next slides_ next_ followed =>
          rw [followed]
          obtain ⟨rfl, outline⟩ := resolved
          exact ⟨slides, outline⟩
      · next outcome ended =>
          rw [ended]
          exact resolved
      · exact absurd resolved id
  | minting newExpiresAt step =>
      rw [staged] at outline
      exact absurd outline id
  | revoking step =>
      rw [staged] at outline
      exact absurd outline id

/-- **What a resolution comes to.** -/
theorem settled_complete (alone : site.Alone) (vouched : site.Vouched token now granted) :
    ∃ outcome,
      (site.complete (.resolveSessionIdentity token now)).2.stage = .finished outcome ∧
      Beside (sessionTokenDigest token) site
        (site.complete (.resolveSessionIdentity token now)).1 ∧
      (site.complete (.resolveSessionIdentity token now)).1.Settled token now granted outcome := by
  obtain ⟨outcome, ended⟩ := @complete_finished _ site (.resolveSessionIdentity token now)
  have resolution : Resolution site token now granted _ _ :=
    complete_induction ⟨.refl, rfl, vouched⟩ fun _ _ => resolution_serve alone
  have outline := resolution.outline
  rw [ended] at outline
  exact ⟨outcome, ended, resolution.beside, outline⟩

end SessionSite

end Chancela
