import Chancela.Session.Site

/-! # What is granted

What a node owes to the users it has minted tokens for, as a matter of the calls and how they
end alone: a token is granted when it is minted, seen when it authenticates, and gone when it is
revoked or evicted. The instants of a grant are those of the calls; a node keeps them in whole
seconds in one place and to the nanosecond in others.
-/

namespace Chancela

/-- Whom a token was minted for and when, when it was last seen, and whether the node has been
restarted since. -/
structure Grant where
  userId : Uuid
  mintedAt : Instant
  seenAt : Instant
  restarted : Bool
deriving DecidableEq

namespace Grant

def Bounded (lifetime : Int) (grant : Grant) : Prop :=
  (grant.mintedAt.checkedAdd (Duration.seconds lifetime)).isSome = true

instance decidableBounded (lifetime : Int) (grant : Grant) : Decidable (grant.Bounded lifetime) :=
  inferInstanceAs (Decidable (_ = _))

/-- The instant is the one of the minting, or its second. -/
structure IssuedAt (grant : Grant) (issuedAt : Instant) : Prop where
  utc : issuedAt.offset = 0
  nanos : issuedAt.nanos = grant.mintedAt.nanos ∨
    issuedAt.nanos = Duration.seconds grant.mintedAt.unixTimestamp

/-- The live session is that of the grant. -/
structure Carries (grant : Grant) (entry : LiveSession) (pinned : Option Instant) : Prop where
  userId : entry.userId = grant.userId
  expiresAt : grant.seenAt.checkedAdd (Duration.seconds sessionTtlSecs) = some entry.expiresAt
  pinned : ∃ issuedAt, pinned = some issuedAt ∧ grant.IssuedAt issuedAt

/-- The record is that of the grant, whatever it says of its expiry. -/
structure Names (grant : Grant) (record : DurableSessionRecord) : Prop where
  userId : record.userId = grant.userId
  issuedAt : record.issuedAtUnix = grant.mintedAt.unixTimestamp

def Ends (grant : Grant) (record : DurableSessionRecord) : Prop :=
  record.expiresAtUnix = (grant.seenAt.nanos + Duration.seconds sessionTtlSecs) / 1000000000

/-- The instant is past the time the grant may stay unseen. -/
def Unseen (grant : Grant) (now : Instant) : Prop :=
  grant.seenAt.nanos + Duration.seconds sessionTtlSecs ≤ now.nanos

variable {grant : Grant} {issuedAt later now : Instant} {lifetime : Int}

theorem IssuedAt.least (issued : grant.IssuedAt issuedAt) :
    issuedAt.nanos ≤ grant.mintedAt.nanos := by
  rcases issued.nanos with same | second
  · exact Int.le_of_eq same
  · rw [second]
    exact Int.ediv_mul_le _ (by decide)

theorem IssuedAt.close (issued : grant.IssuedAt issuedAt) :
    grant.mintedAt.nanos < issuedAt.nanos + 1000000000 := by
  rcases issued.nanos with same | second
  · rw [same]
    omega
  · rw [second]
    unfold Duration.seconds Instant.unixTimestamp
    omega

theorem IssuedAt.bounded_iff (issued : grant.IssuedAt issuedAt)
    (utc : grant.mintedAt.offset = 0) (positive : 0 < lifetime) :
    (issuedAt.checkedAdd (Duration.seconds lifetime)).isSome = true ↔ grant.Bounded lifetime := by
  have nanos := issued.nanos
  have inRange := issuedAt.representable
  have inTime := grant.mintedAt.representable
  unfold Instant.unixTimestamp Instant.nanos Duration.seconds at nanos
  rw [issued.utc, utc] at nanos
  unfold Bounded
  rw [Instant.isSome_checkedAdd, Instant.isSome_checkedAdd]
  unfold Duration.seconds
  omega

theorem Names.exists_issuedAt {record : DurableSessionRecord} (names : grant.Names record)
    (utc : grant.mintedAt.offset = 0) :
    ∃ issuedAt, Instant.fromUnixTimestamp record.issuedAtUnix = some issuedAt ∧
      grant.IssuedAt issuedAt := by
  have inTime := grant.mintedAt.representable
  have inRange : -377705116800000000000 ≤ Duration.seconds grant.mintedAt.unixTimestamp ∧
      Duration.seconds grant.mintedAt.unixTimestamp ≤ 253402300799999999999 := by
    unfold Duration.seconds Instant.unixTimestamp Instant.nanos Duration.seconds
    rw [utc]
    omega
  rw [names.issuedAt]
  refine ⟨⟨Duration.seconds grant.mintedAt.unixTimestamp, 0, inRange⟩, dif_pos inRange, rfl,
    .inr ?_⟩
  exact Int.sub_zero _

end Grant

variable [Crates]

abbrev Grants := Keyed String Grant

def Grants.after (grants : Grants) : SessionCall → SessionOutcome → Grants
  | .mintSession token userId now, .minted => grants.insert token ⟨userId, now, now, false⟩
  | .resolveSessionIdentity token now, .authenticated _ _ => fun other =>
      if other = token then (grants token).map fun grant =>
        { grant with seenAt := now, restarted := false }
      else grants other
  | .resolveSessionIdentity token _, .evicted => grants.erase token
  | .revokeDigestEverywhere digest, .revoked | .revokePairingDevice digest, .revoked =>
      grants.retain fun token _ => sessionTokenDigest token != digest
  | .restart _, _ => fun token => (grants token).map fun grant => { grant with restarted := true }
  | _, _ => grants

end Chancela
