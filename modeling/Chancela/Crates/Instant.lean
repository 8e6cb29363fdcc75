import Mathlib.Data.Int.Notation

/-! # Instants

`time::OffsetDateTime` as its arithmetic sees it: the nanoseconds of a local date and time,
within the years of the crate, and an offset from UTC. Additions are checked or saturate on
the local date and time; instants compare, and are rounded down to seconds, in UTC.
-/

namespace Chancela

/-! `time::Duration` is its nanoseconds. -/

namespace Duration

def seconds (count : Int) : Int := count * 1000000000
def minutes (count : Int) : Int := seconds (count * 60)
def hours (count : Int) : Int := seconds (count * 3600)
def days (count : Int) : Int := seconds (count * 86400)

def clamp (requested least greatest : Int) : Int :=
  if requested < least then least else if greatest < requested then greatest else requested

theorem le_clamp {requested least greatest : Int} (ordered : least ≤ greatest) :
    least ≤ clamp requested least greatest ∧ clamp requested least greatest ≤ greatest := by
  unfold clamp
  split
  · exact ⟨Int.le_refl _, ordered⟩
  · split <;> omega

end Duration

/-- `time::OffsetDateTime`: the nanoseconds of the local date and time since 1970, which lie in
the years -9999 to 9999, and the offset in seconds. -/
@[ext] structure Instant where
  localNanos : Int
  offset : Int
  representable : -377705116800000000000 ≤ localNanos ∧ localNanos ≤ 253402300799999999999
deriving DecidableEq

namespace Instant

/-- The local date and time of this many nanoseconds, if it is representable. -/
def ofLocal (nanos offset : Int) : Option Instant :=
  if inRange : -377705116800000000000 ≤ nanos ∧ nanos ≤ 253402300799999999999 then
    some ⟨nanos, offset, inRange⟩
  else none

/-- `unix_timestamp_nanos`. -/
def nanos (instant : Instant) : Int := instant.localNanos - Duration.seconds instant.offset

def unixTimestamp (instant : Instant) : Int := instant.nanos / 1000000000

def fromUnixTimestamp (seconds : Int) : Option Instant := ofLocal (Duration.seconds seconds) 0

/-- `checked_add`; `+` panics where it gives nothing. -/
def checkedAdd (instant : Instant) (duration : Int) : Option Instant :=
  ofLocal (instant.localNanos + duration) instant.offset

def earliest (offset : Int) : Instant := ⟨-377705116800000000000, offset, by decide⟩
def latest (offset : Int) : Instant := ⟨253402300799999999999, offset, by decide⟩

def saturatingAdd (instant : Instant) (duration : Int) : Instant :=
  match instant.checkedAdd duration with
  | some later => later
  | none => if duration < 0 then earliest instant.offset else latest instant.offset

instance instLE : LE Instant := ⟨fun first second => first.nanos ≤ second.nanos⟩
instance instLT : LT Instant := ⟨fun first second => first.nanos < second.nanos⟩

instance decidableLE (first second : Instant) : Decidable (first ≤ second) :=
  inferInstanceAs (Decidable (first.nanos ≤ second.nanos))

instance decidableLT (first second : Instant) : Decidable (first < second) :=
  inferInstanceAs (Decidable (first.nanos < second.nanos))

theorem lt_def {first second : Instant} : first < second ↔ first.nanos < second.nanos := Iff.rfl

theorem le_def {first second : Instant} : first ≤ second ↔ first.nanos ≤ second.nanos := Iff.rfl

theorem not_lt {first second : Instant} : ¬first < second ↔ second ≤ first := Int.not_lt

theorem ofLocal_eq_some {nanos offset : Int} {instant : Instant}
    (given : ofLocal nanos offset = some instant) :
    instant.localNanos = nanos ∧ instant.offset = offset := by
  unfold ofLocal at given
  split at given
  · obtain rfl := Option.some.inj given
    exact ⟨rfl, rfl⟩
  · cases given

theorem nanos_checkedAdd {instant later : Instant} {duration : Int}
    (given : instant.checkedAdd duration = some later) :
    later.nanos = instant.nanos + duration := by
  obtain ⟨sum, offset⟩ := ofLocal_eq_some given
  unfold nanos
  rw [sum, offset]
  omega

theorem isSome_checkedAdd {instant : Instant} {duration : Int} :
    (instant.checkedAdd duration).isSome = true ↔
      -377705116800000000000 ≤ instant.localNanos + duration ∧
        instant.localNanos + duration ≤ 253402300799999999999 := by
  unfold checkedAdd ofLocal
  split
  · next inRange => exact ⟨fun _ => inRange, fun _ => rfl⟩
  · next outside => exact iff_of_false Bool.false_ne_true outside

theorem le_latest (instant : Instant) : instant ≤ latest instant.offset := by
  have bounded := instant.representable.2
  rw [le_def, nanos, nanos]
  exact Int.sub_le_sub_right bounded _

theorem saturatingAdd_of_nonneg {instant : Instant} {duration : Int}
    (forward : 0 ≤ duration) :
    (instant.saturatingAdd duration).nanos = instant.nanos + duration ∨
      instant.saturatingAdd duration = latest instant.offset := by
  unfold saturatingAdd
  split
  · next later given => exact .inl (nanos_checkedAdd given)
  · exact .inr (if_neg (Int.not_lt.mpr forward))

end Instant

end Chancela
