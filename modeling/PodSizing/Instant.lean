import PodSizing.Duration

/-!
# Instants

An instant is a whole number of nanoseconds since the start of 1970 in UTC, within the years
-262143 to 262142.  Adding a duration is refused where it would leave these years.
-/

namespace PodSizing

/-- A point in time. -/
structure Instant where
  /-- Nanoseconds since the start of 1970. -/
  nanos : Int
  first_le : -8334601228800000000000 ≤ nanos
  le_last : nanos ≤ 8210266876799999999999
  deriving DecidableEq

namespace Instant

/-- The last instant. -/
def last : Instant := ⟨8210266876799999999999, by decide, by decide⟩

instance : Inhabited Instant := ⟨⟨0, by decide, by decide⟩⟩

instance : LT Instant := ⟨fun a b => a.nanos < b.nanos⟩
instance : LE Instant := ⟨fun a b => a.nanos ≤ b.nanos⟩
instance (a b : Instant) : Decidable (a < b) := inferInstanceAs (Decidable (a.nanos < b.nanos))
instance (a b : Instant) : Decidable (a ≤ b) := inferInstanceAs (Decidable (a.nanos ≤ b.nanos))

/-- The instant that many nanoseconds after the start of 1970, if it is in range. -/
def ofNanos? (nanos : Int) : Option Instant :=
  if first_le : -8334601228800000000000 ≤ nanos then
    if le_last : nanos ≤ 8210266876799999999999 then some ⟨nanos, first_le, le_last⟩ else none
  else none

/-- The instant that many milliseconds after the start of 1970, if it is in range. -/
def ofMillis? (millis : Int) : Option Instant :=
  ofNanos? (millis * 1000000)

/-- The instant a duration later, if it is in range. -/
def add? (instant : Instant) (duration : Duration) : Option Instant :=
  ofNanos? (instant.nanos + duration.nanos)

/-- The time from one instant to another, zero when the other is not later. -/
def since (later earlier : Instant) : Duration :=
  ⟨(later.nanos - earlier.nanos).toNat⟩

/-- Milliseconds since the start of 1970, rounded down. -/
def millis (instant : Instant) : Int := instant.nanos / 1000000

/-- Seconds since the start of 1970, rounded down. -/
def seconds (instant : Instant) : Int := instant.nanos / 1000000000

end Instant

end PodSizing
