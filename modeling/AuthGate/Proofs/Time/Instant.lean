import AuthGate.Text.Decimal
import AuthGate.Time.Instant

namespace AuthGate

/-- A span as one with a sign, whose seconds have to fit in 64 bits together with it. -/
def Duration.signed? (d : Duration) : Option Int :=
  (Decimal.inWord? d.secs).map fun _ => (d.nanos : Int)

namespace Instant

theorem subsecNanos_lt (t : Instant) : t.subsecNanos < 1_000_000_000 := by
  have hlow := Int.emod_nonneg t.nanos (by decide : (1_000_000_000 : Int) ≠ 0)
  have hhigh := Int.emod_lt_of_pos t.nanos (by decide : (0 : Int) < 1_000_000_000)
  unfold subsecNanos
  omega

/-- An instant is its whole seconds and the rest, before 1970 as well. -/
theorem ofUnix?_unixSeconds (t : Instant) : ofUnix? t.unixSeconds t.subsecNanos = some t := by
  have hsplit := Int.emod_add_mul_ediv t.nanos 1_000_000_000
  have hlow := Int.emod_nonneg t.nanos (by decide : (1_000_000_000 : Int) ≠ 0)
  unfold ofUnix?
  rw [if_pos t.subsecNanos_lt, ofNanos?_eq_some]
  unfold unixSeconds subsecNanos
  omega

/-- The seconds of every instant of the calendar fit in 64 bits. -/
theorem unixSeconds_range (t : Instant) :
    -0x8000_0000_0000_0000 ≤ t.unixSeconds ∧ t.unixSeconds < 0x8000_0000_0000_0000 := by
  have := t.lower
  have := t.upper
  unfold unixSeconds
  omega

/-- The time left until an instant is what it lies ahead, and zero from then on. -/
theorem nanos_remaining (now limit : Instant) :
    ((now.remaining limit).nanos : Int) = max 0 (limit.nanos - now.nanos) := by
  change ((limit.nanos - now.nanos).toNat : Int) = _
  omega

theorem nanos_remaining_of_lt {now limit : Instant} (h : now < limit) :
    ((now.remaining limit).nanos : Int) = limit.nanos - now.nanos := by
  rw [lt_def] at h
  rw [nanos_remaining]
  omega

variable {start : Instant} {window : Duration}

/-- The calendar has the end of a window. -/
def Reaches (start : Instant) (window : Duration) : Prop :=
  ∃ stop : Instant, stop.nanos = start.nanos + window.nanos

theorem reaches_iff_add?_isSome : start.Reaches window ↔ (start.add? window).isSome := by
  unfold Reaches add?
  rw [Option.isSome_iff_exists]
  exact exists_congr fun stop => eq_comm.trans ofNanos?_eq_some.symm

theorem nanos_deadline_of_reaches (h : start.Reaches window) :
    (start.deadline window).nanos = start.nanos + window.nanos := by
  obtain ⟨stop, hadd⟩ := Option.isSome_iff_exists.1 (reaches_iff_add?_isSome.1 h)
  unfold deadline
  rw [hadd, Option.getD_some]
  exact (ofNanos?_eq_some.1 hadd).symm

theorem deadline_of_not_reaches (h : ¬ start.Reaches window) :
    start.deadline window = farFuture := by
  rw [reaches_iff_add?_isSome, Option.not_isSome_iff_eq_none] at h
  unfold deadline
  rw [h, Option.getD_none]

/-- A window ends when its span has passed, or as the last day of the calendar begins. -/
theorem deadline_eq_or (start : Instant) (window : Duration) :
    (start.deadline window).nanos = start.nanos + window.nanos ∨
      start.deadline window = farFuture :=
  (Classical.em (start.Reaches window)).imp nanos_deadline_of_reaches deadline_of_not_reaches

/-- If the calendar has the end of a window, it has that of a shorter one. -/
theorem Reaches.mono {short : Duration} (h : start.Reaches window) (hle : short ≤ window) :
    start.Reaches short := by
  obtain ⟨stop, hstop⟩ := h
  have hlower := start.lower
  have hupper := stop.upper
  rw [Duration.le_def] at hle
  exact ⟨⟨start.nanos + short.nanos, by omega, by omega⟩, rfl⟩

/-- A span too long for a word with a sign leads out of the calendar anyway, so that a deadline
may be computed with such spans. -/
theorem deadline_eq_of_signed? (start : Instant) (window : Duration) :
    start.deadline window =
      (window.signed?.bind fun span => ofNanos? (start.nanos + span)).getD farFuture := by
  unfold Duration.signed? Decimal.inWord?
  split
  · rfl
  · next hlong =>
    have hend : ¬ start.Reaches window := by
      rintro ⟨stop, hstop⟩
      have hlower := start.lower
      have hupper := stop.upper
      have hsecs : window.secs = window.nanos / 1_000_000_000 := rfl
      omega
    rw [deadline_of_not_reaches hend]
    rfl

/-- A deadline is not before the start of its window, except for a window that opens on the
last day and leads out of the calendar. -/
theorem le_deadline_iff :
    start ≤ start.deadline window ↔ start.Reaches window ∨ start ≤ farFuture := by
  by_cases hend : start.Reaches window
  · rw [le_def, nanos_deadline_of_reaches hend]
    exact iff_of_true (by omega) (.inl hend)
  · rw [deadline_of_not_reaches hend, or_iff_right hend]

theorem lt_deadline_iff (hopen : .zero < window) :
    start < start.deadline window ↔ start.Reaches window ∨ start < farFuture := by
  have hpositive : 0 < window.nanos := hopen
  by_cases hend : start.Reaches window
  · rw [lt_def, nanos_deadline_of_reaches hend]
    exact iff_of_true (by omega) (.inl hend)
  · rw [deadline_of_not_reaches hend, or_iff_right hend]

/-- Of two windows that open together, the longer one has the later deadline, unless only the
shorter one ends in the calendar and does so on its last day. -/
theorem deadline_le_deadline_iff {short long : Duration} (hle : short ≤ long) :
    start.deadline short ≤ start.deadline long ↔
      start.Reaches long ∨ ¬ start.Reaches short ∨
        start.nanos + short.nanos ≤ farFuture.nanos := by
  by_cases hlong : start.Reaches long
  · rw [Duration.le_def] at hle
    rw [le_def, nanos_deadline_of_reaches hlong,
      nanos_deadline_of_reaches (hlong.mono hle)]
    exact iff_of_true (by omega) (.inl hlong)
  · rw [deadline_of_not_reaches hlong, or_iff_right hlong, le_def]
    by_cases hshort : start.Reaches short
    · rw [nanos_deadline_of_reaches hshort, or_iff_right (not_not_intro hshort)]
    · rw [deadline_of_not_reaches hshort]
      exact iff_of_true (Int.le_refl _) (.inl hshort)

end Instant

end AuthGate
