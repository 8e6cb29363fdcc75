import Chancela.Foundation.Keyed
import Chancela.Session.Registry

/-! # Sessions on a node

What a node keeps of its sessions (the live ones, the instants they were issued at, the durable
registry) beside the store it may share with others, and the calls that mint, resolve and
revoke them. A call runs section by section: a command to the shared store, or what it does
under one lock. A restart loses every call in flight.
-/

namespace Chancela

/-- `SessionEntry`, with the token it is kept under. -/
structure LiveSession where
  token : String
  userId : Uuid
  expiresAt : Instant
deriving DecidableEq

/-- The user a session may act for. -/
structure SessionUser where
  username : String
  active : Bool
deriving DecidableEq

/-- `RedisSessionValue`, without what is only listed. -/
structure RedisSessionValue where
  userId : Uuid
  issuedAtUnix : Int
  epoch : Int
  lastSeenUnix : Int
deriving DecidableEq

/-- The shared store: the values by the digests of their tokens, and the epoch. -/
structure RedisSessions where
  values : Keyed String RedisSessionValue
  epoch : Option Int

/-- What a node keeps. -/
structure SessionNode where
  sessions : Table LiveSession.token
  sessionIssuedAt : Keyed String Instant
  durableSessions : DurableSessionRegistry
  users : Keyed Uuid SessionUser
  sessionMaxLifetime : Int
  boots : Nat

/-- A node and the store it shares, if it shares one. -/
structure SessionSite where
  shared : Option RedisSessions
  node : SessionNode

/-- A call, and what happens to a site besides. -/
inductive SessionCall where
  | mintSession (token : String) (userId : Uuid) (now : Instant)
  | resolveSessionIdentity (token : String) (now : Instant)
  | revokeDigestEverywhere (digest : String)
  | revokePairingDevice (digest : String)
  | setUser (userId : Uuid) (user : Option SessionUser)
  | applySessionRevoked (digest : String)
  | clearAll
  | expire (digest : String)
  | restart (now : Instant)
deriving DecidableEq

/-- What a section meets: how a write of the file goes, whether the shared store answers, the
second the clock shows, and whether the file is read. -/
structure SiteReplies where
  write : DiskWrite
  reachable : Bool
  clock : Int
  readable : Bool

/-- How a call ends. -/
inductive SessionOutcome where
  | minted
  | authenticated (userId : Uuid) (username : String)
  | rejected
  | evicted
  | revoked
  | performed
  | failed
  | panicked
  | lost
deriving DecidableEq

/-- The sections of `mint_session`. -/
inductive MintStep where
  | insertDurable
  | readEpoch
  | put (epoch : Int)
  | rollBack
  | insertLive
  | insertIssued
deriving DecidableEq

/-- The sections of `evict_session`. -/
inductive EvictStep where
  | live
  | issued
  | durable
  | shared
deriving DecidableEq

/-- The sections of `resolve_session_identity_at`. -/
inductive ResolveStep where
  | slideShared (value : RedisSessionValue)
  | capShared (userId : Uuid) (issuedAt : Instant)
  | touchShared (userId : Uuid)
  | dropLive
  | dropIssued
  | probe
  | slideLocal (userId : Uuid) (derivedIssuedAt : Instant)
  | capLocal (userId : Uuid) (issuedAt : Instant)
  | touchLocal (userId : Uuid)
  | forget
  | slideDurable
  | revokeUnusable
  | capDurable (userId : Uuid) (issuedAt : Instant)
  | insertLive (userId : Uuid)
  | readUser (userId : Uuid)
  | evict (step : EvictStep)
deriving DecidableEq

/-- The sections of the revocations by digest. -/
inductive RevokeStep where
  | delete
  | scan
  | remove (tokens : List String)
  | deleteEach (tokens : List String)
deriving DecidableEq

/-- How far a call has got. -/
inductive SessionStage where
  | arrived
  | minting (expiresAt : Instant) (step : MintStep)
  | resolving (newExpiresAt : Instant) (step : ResolveStep)
  | revoking (step : RevokeStep)
  | finished (outcome : SessionOutcome)
deriving DecidableEq

/-- A call in flight, with the boot of the node it runs under. -/
structure InFlight where
  boot : Nat
  stage : SessionStage
deriving DecidableEq

namespace SessionSite

variable (site : SessionSite) (replies : SiteReplies)

def setSessions (sessions : Table LiveSession.token) : SessionSite :=
  { site with node := { site.node with sessions } }

def setIssuedAt (sessionIssuedAt : Keyed String Instant) : SessionSite :=
  { site with node := { site.node with sessionIssuedAt } }

def setDurable (durableSessions : DurableSessionRegistry) : SessionSite :=
  { site with node := { site.node with durableSessions } }

/-- A change of the values of the shared store, if there is one and it answers. -/
def mapShared (change : RedisSessions → RedisSessions) : SessionSite :=
  if replies.reachable then { site with shared := site.shared.map change } else site

/-- `DEL` of the key of a digest. -/
def deleteShared (digest : String) : SessionSite :=
  site.mapShared replies fun redis => { redis with values := redis.values.erase digest }

/-- `SET` of the key of a digest. -/
def setShared (digest : String) (value : RedisSessionValue) : SessionSite :=
  site.mapShared replies fun redis => { redis with values := redis.values.insert digest value }

/-- `session_absolute_cap_exceeded`: the first instant seen is kept. The sum of an instant and
the cap may not be representable. -/
def capExceeded (token : String) (now firstSeenIssuedAt : Instant) : SessionSite × Option Bool :=
  if site.node.sessionMaxLifetime ≤ 0 then (site, some false)
  else
    let issuedAt := (site.node.sessionIssuedAt token).getD firstSeenIssuedAt
    (site.setIssuedAt (site.node.sessionIssuedAt.insert token issuedAt),
      (issuedAt.checkedAdd (Duration.seconds site.node.sessionMaxLifetime)).map fun end_ =>
        decide (end_ ≤ now))

variable [Crates]

def serveMint (token : String) (userId : Uuid) (now expiresAt : Instant) :
    MintStep → SessionSite × SessionStage
  | .insertDurable =>
      let inserted := site.node.durableSessions.insert token userId now expiresAt replies.write
      (site.setDurable inserted.1,
        if inserted.2 then .minting expiresAt .readEpoch else .finished .failed)
  | .readEpoch =>
      match site.shared with
      | none => (site, .minting expiresAt .insertLive)
      | some redis =>
          if replies.reachable then (site, .minting expiresAt (.put (redis.epoch.getD 0)))
          else (site, .minting expiresAt .rollBack)
  | .put epoch =>
      (site.setShared replies (sessionTokenDigest token)
          ⟨userId, now.unixTimestamp, epoch, now.unixTimestamp⟩,
        .minting expiresAt (if replies.reachable then .insertLive else .rollBack))
  | .rollBack =>
      (site.setDurable (site.node.durableSessions.revoke token replies.write).1,
        .finished .failed)
  | .insertLive =>
      (site.setSessions (site.node.sessions.insert ⟨token, userId, expiresAt⟩),
        .minting expiresAt .insertIssued)
  | .insertIssued =>
      (site.setIssuedAt (site.node.sessionIssuedAt.insert token now), .finished .minted)

def serveEvict (token : String) (newExpiresAt : Instant) : EvictStep → SessionSite × SessionStage
  | .live => (site.setSessions (site.node.sessions.erase token),
      .resolving newExpiresAt (.evict .issued))
  | .issued => (site.setIssuedAt (site.node.sessionIssuedAt.erase token),
      .resolving newExpiresAt (.evict .durable))
  | .durable => (site.setDurable (site.node.durableSessions.revoke token replies.write).1,
      .resolving newExpiresAt (.evict .shared))
  | .shared => (site.deleteShared replies (sessionTokenDigest token), .finished .evicted)

def afterCap (checked : SessionSite × Option Bool) (newExpiresAt : Instant) (next : ResolveStep) :
    SessionSite × SessionStage :=
  match checked.2 with
  | none => (checked.1, .finished .panicked)
  | some true => (checked.1, .resolving newExpiresAt (.evict .live))
  | some false => (checked.1, .resolving newExpiresAt next)

/-- `RedisSessionStore::resolve` up to the reply of `MGET`. -/
def lookUpShared (redis : RedisSessions) (token : String) : ResolveStep :=
  if !replies.reachable then .dropLive
  else
    match redis.values (sessionTokenDigest token) with
    | none => .dropLive
    | some value =>
        if value.epoch ≠ redis.epoch.getD 0 then .dropLive
        else if (Instant.fromUnixTimestamp value.issuedAtUnix).isSome then .slideShared value
        else .dropLive

def serveResolve (token : String) (now newExpiresAt : Instant) :
    ResolveStep → SessionSite × SessionStage
  | .slideShared value =>
      (site.setShared replies (sessionTokenDigest token)
          { value with lastSeenUnix := replies.clock },
        .resolving newExpiresAt
          (match Instant.fromUnixTimestamp value.issuedAtUnix with
          | none => .dropLive
          | some issuedAt => .capShared value.userId issuedAt))
  | .capShared userId issuedAt =>
      afterCap (site.capExceeded token now issuedAt) newExpiresAt (.touchShared userId)
  | .touchShared userId =>
      (site.setSessions (site.node.sessions.insert ⟨token, userId, newExpiresAt⟩),
        .resolving newExpiresAt (.readUser userId))
  | .dropLive =>
      (site.setSessions (site.node.sessions.erase token), .resolving newExpiresAt .dropIssued)
  | .dropIssued =>
      (site.setIssuedAt (site.node.sessionIssuedAt.erase token), .finished .rejected)
  | .probe =>
      match site.node.sessions.get token with
      | some entry =>
          if now < entry.expiresAt then
            match entry.expiresAt.checkedAdd (-Duration.seconds sessionTtlSecs) with
            | none => (site, .finished .panicked)
            | some derived => (site, .resolving newExpiresAt (.slideLocal entry.userId derived))
          else
            (site.setSessions (site.node.sessions.erase token), .resolving newExpiresAt .forget)
      | none => (site, .resolving newExpiresAt .forget)
  | .slideLocal userId derived =>
      let slid := site.node.durableSessions.slideIfPresent token now newExpiresAt replies.write
      (site.setDurable slid.1,
        match slid.2 with
        | .failed => .finished .failed
        | .absent => .resolving newExpiresAt (.capLocal userId derived)
        | .slid record =>
            .resolving newExpiresAt
              (if record.userId = userId then
                .capLocal userId ((Instant.fromUnixTimestamp record.issuedAtUnix).getD derived)
              else .evict .live))
  | .capLocal userId issuedAt =>
      afterCap (site.capExceeded token now issuedAt) newExpiresAt (.touchLocal userId)
  | .touchLocal userId =>
      (match site.node.sessions.get token with
      | some entry =>
          site.setSessions (site.node.sessions.insert { entry with expiresAt := newExpiresAt })
      | none => site,
        .resolving newExpiresAt (.readUser userId))
  | .forget =>
      (site.setIssuedAt (site.node.sessionIssuedAt.erase token),
        .resolving newExpiresAt .slideDurable)
  | .slideDurable =>
      let slid := site.node.durableSessions.resolveAndSlide token now newExpiresAt replies.write
      (site.setDurable slid.1,
        match slid.2 with
        | .failed => .finished .failed
        | .absent => .finished .rejected
        | .slid record =>
            match Instant.fromUnixTimestamp record.issuedAtUnix with
            | none => .resolving newExpiresAt .revokeUnusable
            | some issuedAt => .resolving newExpiresAt (.capDurable record.userId issuedAt))
  | .revokeUnusable =>
      (site.setDurable (site.node.durableSessions.revoke token replies.write).1,
        .finished .rejected)
  | .capDurable userId issuedAt =>
      afterCap (site.capExceeded token now issuedAt) newExpiresAt (.insertLive userId)
  | .insertLive userId =>
      (site.setSessions (site.node.sessions.insert ⟨token, userId, newExpiresAt⟩),
        .resolving newExpiresAt (.readUser userId))
  | .readUser userId =>
      match site.node.users userId with
      | some user =>
          if user.active then (site, .finished (.authenticated userId user.username))
          else (site, .resolving newExpiresAt (.evict .live))
      | none => (site, .resolving newExpiresAt (.evict .live))
  | .evict step => site.serveEvict replies token newExpiresAt step

def tokensOf (digest : String) : List String :=
  (site.node.sessions.values.filter fun entry => sessionTokenDigest entry.token = digest).map
    LiveSession.token

def removeTokens (tokens : List String) : SessionSite :=
  (site.setSessions (tokens.foldl Table.erase site.node.sessions)).setIssuedAt
    (tokens.foldl Keyed.erase site.node.sessionIssuedAt)

/-- The next section of a revocation. The one by a device deletes only the keys of the tokens it
has found on its own node, after it has taken them out of the maps. -/
def serveRevoke (digest : String) (byDevice : Bool) : RevokeStep → SessionSite × SessionStage
  | .delete => (site.deleteShared replies digest, .revoking .scan)
  | .scan =>
      match site.tokensOf digest with
      | [] => (site, .finished .revoked)
      | token :: tokens => (site, .revoking (.remove (token :: tokens)))
  | .remove tokens =>
      (site.removeTokens tokens,
        if byDevice then .revoking (.deleteEach tokens) else .finished .revoked)
  | .deleteEach [] => (site, .finished .revoked)
  | .deleteEach (token :: tokens) =>
      (site.deleteShared replies (sessionTokenDigest token), .revoking (.deleteEach tokens))

def begin_ : SessionCall → SessionSite × SessionStage
  | .mintSession _ _ now =>
      match now.checkedAdd (Duration.seconds sessionTtlSecs) with
      | none => (site, .finished .panicked)
      | some expiresAt =>
          (site, .minting expiresAt
            (if site.node.durableSessions.durable then .insertDurable else .readEpoch))
  | .resolveSessionIdentity token now =>
      match now.checkedAdd (Duration.seconds sessionTtlSecs) with
      | none => (site, .finished .panicked)
      | some newExpiresAt =>
          match site.shared with
          | none => (site, .resolving newExpiresAt .probe)
          | some redis => (site, .resolving newExpiresAt (lookUpShared replies redis token))
  | .revokeDigestEverywhere digest =>
      (site.setDurable (site.node.durableSessions.revokeByDigest digest replies.write).1,
        .revoking .delete)
  | .revokePairingDevice digest =>
      let revoked := site.node.durableSessions.revokeByDigest digest replies.write
      (site.setDurable revoked.1, if revoked.2 then .revoking .scan else .finished .failed)
  | .setUser userId user =>
      ({ site with node :=
        { site.node with users := Function.update site.node.users userId user } },
        .finished .performed)
  | .applySessionRevoked digest =>
      (site.setSessions (site.node.sessions.retain fun entry =>
        sessionTokenDigest entry.token != digest), .finished .performed)
  | .clearAll =>
      (site.mapShared replies fun redis => { redis with epoch := some (redis.epoch.getD 0 + 1) },
        .finished .performed)
  | .expire digest =>
      ({ site with shared := site.shared.map fun redis =>
          { redis with values := redis.values.erase digest } }, .finished .performed)
  | .restart now =>
      ({ site with node := { site.node with
          sessions := Table.empty
          sessionIssuedAt := Keyed.empty
          durableSessions :=
            if site.node.durableSessions.durable then
              .loadAt site.node.durableSessions.file replies.readable now
            else site.node.durableSessions
          boots := site.node.boots + 1 } }, .finished .performed)

def continue_ (call : SessionCall) : SessionStage → SessionSite × SessionStage
  | .minting expiresAt step =>
      match call with
      | .mintSession token userId now => site.serveMint replies token userId now expiresAt step
      | _ => (site, .finished .failed)
  | .resolving newExpiresAt step =>
      match call with
      | .resolveSessionIdentity token now => site.serveResolve replies token now newExpiresAt step
      | _ => (site, .finished .failed)
  | .revoking step =>
      match call with
      | .revokeDigestEverywhere digest => site.serveRevoke replies digest false step
      | .revokePairingDevice digest => site.serveRevoke replies digest true step
      | _ => (site, .finished .failed)
  | stage => (site, stage)

/-- The next section of a call; what a restart has cut off is lost. -/
def serve (call : SessionCall) (progress : InFlight) : SessionSite × InFlight :=
  match progress.stage with
  | .finished _ => (site, progress)
  | .arrived =>
      ((site.begin_ replies call).1, ⟨site.node.boots, (site.begin_ replies call).2⟩)
  | stage =>
      if progress.boot = site.node.boots then
        ((site.continue_ replies call stage).1,
          ⟨progress.boot, (site.continue_ replies call stage).2⟩)
      else (site, ⟨progress.boot, .finished .lost⟩)

end SessionSite

end Chancela
