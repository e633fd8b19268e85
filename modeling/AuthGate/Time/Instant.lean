import AuthGate.Time.Duration

namespace AuthGate

/-- A point of time in nanoseconds after 1970-01-01T00:00 UTC. The range is the
years -9999 to 9999 of the proleptic Gregorian calendar. -/
structure Instant where
  nanos : Int
  lower : -377705116800 * 1_000_000_000 ≤ nanos
  upper : nanos < 253402300800 * 1_000_000_000
deriving DecidableEq

namespace Instant

/-- The instant at a count of nanoseconds, if the calendar range has it. -/
def ofNanos? (nanos : Int) : Option Instant :=
  if h : -377705116800 * 1_000_000_000 ≤ nanos ∧ nanos < 253402300800 * 1_000_000_000 then
    some ⟨nanos, h.1, h.2⟩
  else
    none

/-- The instant of a Unix time in seconds and further nanoseconds. The seconds
alone have to be in range, and the nanoseconds have to stay below a second. -/
def ofUnix? (seconds : Int) (nanos : Nat) : Option Instant :=
  if nanos < 1_000_000_000 then ofNanos? (seconds * 1_000_000_000 + nanos) else none

/-- 1970-01-01T00:00 UTC. -/
def epoch : Instant := ⟨0, by decide, by decide⟩

/-- 9999-12-31T00:00 UTC, the deadline of a window that ends past the range. -/
def farFuture : Instant := ⟨253402214400 * 1_000_000_000, by decide, by decide⟩

instance : Inhabited Instant := ⟨epoch⟩

/-- Whole Unix seconds, rounded toward the past. -/
def unixSeconds (t : Instant) : Int := t.nanos / 1_000_000_000

/-- The nanoseconds past the last whole Unix second. -/
def subsecNanos (t : Instant) : Nat := (t.nanos % 1_000_000_000).toNat

instance : LE Instant := ⟨fun a b => a.nanos ≤ b.nanos⟩

instance : LT Instant := ⟨fun a b => a.nanos < b.nanos⟩

instance (a b : Instant) : Decidable (a ≤ b) := inferInstanceAs (Decidable (a.nanos ≤ b.nanos))

instance (a b : Instant) : Decidable (a < b) := inferInstanceAs (Decidable (a.nanos < b.nanos))

instance : Max Instant := ⟨fun a b => if a ≤ b then b else a⟩

theorem le_def {a b : Instant} : a ≤ b ↔ a.nanos ≤ b.nanos := Iff.rfl

theorem lt_def {a b : Instant} : a < b ↔ a.nanos < b.nanos := Iff.rfl

theorem eq_of_nanos_eq {a b : Instant} (h : a.nanos = b.nanos) : a = b := by
  cases a; cases b; cases h; rfl

theorem ofNanos?_eq_some {n : Int} {t : Instant} : ofNanos? n = some t ↔ n = t.nanos := by
  unfold ofNanos?
  split
  · constructor
    · rintro h; cases h; rfl
    · rintro rfl; rfl
  · next h =>
    constructor
    · intro h'; cases h'
    · rintro rfl; exact absurd ⟨t.lower, t.upper⟩ h

/-- The instant a span later, if it is in range. -/
def add? (t : Instant) (d : Duration) : Option Instant := ofNanos? (t.nanos + d.nanos)

/-- The end of a window that opens at `start`. A window that leaves the range
ends at `farFuture`. -/
def deadline (start : Instant) (window : Duration) : Instant :=
  (start.add? window).getD farFuture

/-- The time left until `limit`, zero once it is reached. The whole range is
shorter than the longest span, so the difference always has a value. -/
def remaining (now limit : Instant) : Duration :=
  ⟨(limit.nanos - now.nanos).toNat, by
    have := limit.upper
    have := now.lower
    omega⟩

theorem remaining_eq_zero_iff {now limit : Instant} :
    remaining now limit = Duration.zero ↔ limit ≤ now := by
  rw [le_def]
  constructor
  · intro h
    have : (limit.nanos - now.nanos).toNat = 0 := congrArg Duration.nanos h
    omega
  · intro h
    apply Duration.eq_of_nanos_eq
    change (limit.nanos - now.nanos).toNat = 0
    omega

end Instant

end AuthGate
