import AuthGate.Proofs.Lockout.Records
import AuthGate.Proofs.Time.Instant
import AuthGate.Settings.Auth

namespace AuthGate

namespace Duration

theorem le_min {a b c : Duration} (hb : a ≤ b) (hc : a ≤ c) : a ≤ min b c := by
  change a ≤ if b ≤ c then b else c
  split
  · exact hb
  · exact hc

end Duration

/-- What the settings of a subsystem guarantee of its policy: some failures are
allowed, but not any number of them, locks have a length, and the cap of the
exponential curve is no shorter than that. -/
structure LockoutPolicy.Usable (p : LockoutPolicy) : Prop where
  threshold : 0 < p.maxFailedAttempts.toNat
  duration : 0 < p.lockoutDuration.nanos
  cap : p.lockoutDuration ≤ p.maxLockoutDuration

theorem AuthSettings.usable_of_defect? {s : AuthSettings} (h : s.defect? = none) :
    s.lockout.Usable := by
  unfold defect? at h
  iterate 3 (split at h; · cases h)
  split at h
  · cases h
  next hthreshold =>
  split at h
  · cases h
  next hduration =>
  split at h
  · cases h
  next hcap =>
  constructor
  · have hne : s.lockout.maxFailedAttempts.toNat ≠ (0 : UInt32).toNat :=
      mt UInt32.toNat_inj.1 hthreshold
    exact Nat.pos_of_ne_zero hne
  · have hne : s.lockout.lockoutDuration.nanos ≠ Duration.zero.nanos :=
      mt Duration.eq_of_nanos_eq hduration
    exact Nat.pos_of_ne_zero hne
  · exact Nat.not_lt.1 hcap

namespace LockoutPolicy

theorem growth_pos (excess : Nat) : 0 < growth excess := by
  unfold growth
  split
  · rw [Nat.one_shiftLeft]
    exact Nat.two_pow_pos excess
  · decide

/-- No window is shorter than the configured duration, on either curve. -/
theorem Usable.lockoutDuration_le_window {p : LockoutPolicy} (husable : p.Usable) {failures : Nat}
    {window : Duration} (hwindow : p.window failures = some window) :
    p.lockoutDuration ≤ window := by
  unfold LockoutPolicy.window at hwindow
  split at hwindow
  · cases hwindow
  · obtain rfl := Option.some.inj hwindow
    cases p.escalation with
    | fixed => exact Nat.le_refl _
    | exponential =>
      refine Duration.le_min ?_ husable.cap
      cases hscale : p.lockoutDuration.scale? (growth (failures - p.maxFailedAttempts.toNat)) with
      | none => exact husable.cap
      | some scaled =>
        rw [Option.getD_some, Duration.le_def, ← Duration.ofNanos?_eq_some.1 hscale]
        exact Nat.le_mul_of_pos_right _ (growth_pos _)

end LockoutPolicy

namespace FailureRecord

/-- A failure that reaches the threshold locks for the configured duration at
least, or to the end of the calendar. -/
theorem exists_lockedUntil_fail {p : LockoutPolicy} (husable : p.Usable) {r : FailureRecord}
    {now : Instant} (hreached : p.maxFailedAttempts.toNat ≤ (r.fail p now).failures) :
    ∃ limit, (r.fail p now).lockedUntil = some limit ∧
      (now.nanos + p.lockoutDuration.nanos ≤ limit.nanos ∨ .farFuture ≤ limit) := by
  obtain ⟨window, hwindow⟩ := p.exists_window hreached
  refine ⟨_, lockedUntil_fail_of_window hwindow, ?_⟩
  have hlater := le_extend r.lockedUntil (now.deadline window)
  obtain hpassed | hend := now.deadline_eq_or window
  · have hshort := husable.lockoutDuration_le_window hwindow
    rw [Instant.le_def] at hlater
    rw [Duration.le_def] at hshort
    exact .inl (by omega)
  · rw [hend] at hlater ⊢
    exact .inr hlater

/-- A failure locks an account that has reached the threshold, and does not unlock
any other. -/
theorem isLockedAt_fail_iff {p : LockoutPolicy} (husable : p.Usable)
    (r : FailureRecord) {now : Instant} (hend : now < .farFuture) :
    (r.fail p now).isLockedAt now = true ↔
      r.isLockedAt now = true ∨ p.maxFailedAttempts.toNat ≤ (r.fail p now).failures := by
  by_cases hreached : p.maxFailedAttempts.toNat ≤ (r.fail p now).failures
  · obtain ⟨limit, hlimit, hlater⟩ := exists_lockedUntil_fail husable hreached
    have hduration := husable.duration
    have hlocked : now < limit := by
      rw [Instant.le_def] at hlater
      rw [Instant.lt_def] at hend ⊢
      omega
    exact iff_of_true (((r.fail p now).isLockedAt_iff now).2 ⟨limit, hlimit, hlocked⟩)
      (.inr hreached)
  · have hwindow := (p.window_eq_none_iff _).2 (Nat.not_le.1 hreached)
    rw [isLockedAt_iff, isLockedAt_iff, lockedUntil_fail_of_no_window hwindow]
    exact ⟨.inl, fun h => h.resolve_right hreached⟩

/-- The first moment from an instant on at which an account is not locked. -/
def openFrom (r : FailureRecord) (now : Int) : Int :=
  match r.lockedUntil with
  | none => now
  | some limit => max now limit.nanos

theorem openFrom_of_not_isLockedAt {r : FailureRecord} {now : Instant}
    (hopen : r.isLockedAt now = false) : r.openFrom now.nanos = now.nanos := by
  unfold isLockedAt at hopen
  unfold openFrom
  cases hlimit : r.lockedUntil with
  | none => rfl
  | some limit =>
    rw [hlimit] at hopen
    exact Int.max_eq_left (Int.not_lt.1 (of_decide_eq_false hopen))

theorem le_openFrom (r : FailureRecord) (now : Int) : now ≤ r.openFrom now := by
  unfold openFrom
  cases r.lockedUntil with
  | none => exact Int.le_refl _
  | some limit => exact Int.le_max_left _ _

theorem openFrom_mono (r : FailureRecord) {now later : Int} (hle : now ≤ later) :
    r.openFrom now ≤ r.openFrom later := by
  unfold openFrom
  cases r.lockedUntil with
  | none => exact hle
  | some limit => dsimp only; omega

end FailureRecord

namespace LockoutPolicy

/-- How many locks can be set from one moment to another, if the next one is set
no earlier than the configured duration after the last. -/
def locksBetween (p : LockoutPolicy) (start stop : Int) : Nat :=
  if start ≤ stop then ((stop - start) / p.lockoutDuration.nanos).toNat + 1 else 0

/-- How many failures an account has left up to a moment: those below the
threshold, and one for every lock that can still be set. -/
def allowance (p : LockoutPolicy) (r : FailureRecord) (now stop : Int) : Nat :=
  (p.maxFailedAttempts.toNat - 1 - r.failures) + p.locksBetween (r.openFrom now) stop

variable {p : LockoutPolicy}

theorem Usable.locksBetween_anti (husable : p.Usable) {start later : Int} (stop : Int)
    (hle : start ≤ later) : p.locksBetween later stop ≤ p.locksBetween start stop := by
  have hpositive : (0 : Int) < p.lockoutDuration.nanos := Int.natCast_pos.2 husable.duration
  unfold locksBetween
  by_cases hlater : later ≤ stop
  · have hquotient := Int.ediv_le_ediv hpositive (Int.sub_le_sub_left hle stop)
    rw [if_pos hlater, if_pos (Int.le_trans hle hlater)]
    omega
  · rw [if_neg hlater]
    exact Nat.zero_le _

/-- A lock takes up the configured duration, and after it there is room for one
lock less. -/
theorem Usable.locksBetween_of_add_le (husable : p.Usable) {start later stop : Int}
    (hstop : start ≤ stop) (hle : start + p.lockoutDuration.nanos ≤ later) :
    p.locksBetween later stop + 1 ≤ p.locksBetween start stop := by
  have hpositive : (0 : Int) < p.lockoutDuration.nanos := Int.natCast_pos.2 husable.duration
  unfold locksBetween
  rw [if_pos hstop]
  by_cases hlater : later ≤ stop
  · have hwhole := Int.ediv_mul_le (stop - later) (Int.ne_of_gt hpositive)
    have hquotient : (stop - later) / p.lockoutDuration.nanos + 1 ≤
        (stop - start) / p.lockoutDuration.nanos := by
      rw [Int.le_ediv_iff_mul_le hpositive, Int.add_mul]
      omega
    have hnonneg := Int.ediv_nonneg (Int.sub_nonneg.2 hlater) (Int.le_of_lt hpositive)
    rw [if_pos hlater]
    omega
  · rw [if_neg hlater]
    omega

theorem locksBetween_eq_zero {start stop : Int} (h : stop < start) :
    p.locksBetween start stop = 0 := if_neg (Int.not_le.2 h)

/-- The allowance never exceeds the threshold by more than the number of whole
durations that are left, whatever the record. -/
theorem Usable.allowance_le (husable : p.Usable) (r : FailureRecord) {now stop : Int}
    (hle : now ≤ stop) :
    p.allowance r now stop ≤
      p.maxFailedAttempts.toNat + ((stop - now) / p.lockoutDuration.nanos).toNat := by
  have hthreshold := husable.threshold
  have hlocks := husable.locksBetween_anti stop (r.le_openFrom now)
  have hnow : p.locksBetween now stop = ((stop - now) / p.lockoutDuration.nanos).toNat + 1 :=
    if_pos hle
  unfold allowance
  omega

theorem Usable.allowance_anti (husable : p.Usable) (r : FailureRecord) {now later : Int}
    (stop : Int) (hle : now ≤ later) : p.allowance r later stop ≤ p.allowance r now stop :=
  Nat.add_le_add_left (husable.locksBetween_anti stop (r.openFrom_mono hle)) _

/-- Every failure uses up a part of the allowance. Below the threshold it is one
of the failures that are left, and from the threshold on it is a lock. -/
theorem Usable.allowance_fail (husable : p.Usable) {r : FailureRecord} {now : Instant}
    {stop : Int} (hopen : r.isLockedAt now = false) (hstop : now.nanos ≤ stop)
    (hend : stop < Instant.farFuture.nanos) :
    p.allowance (r.fail p now) now.nanos stop + 1 ≤ p.allowance r now.nanos stop := by
  have hthreshold := husable.threshold
  have hcounted : (r.fail p now).failures = min (r.failures + 1) maxFailures := rfl
  have hlimit := p.threshold_le_maxFailures
  unfold allowance
  rw [FailureRecord.openFrom_of_not_isLockedAt hopen]
  -- either the failure locks, and a lock is used up, or it is one of the first
  by_cases hreached : p.maxFailedAttempts.toNat ≤ (r.fail p now).failures
  · obtain ⟨limit, hlocked, hlong⟩ := FailureRecord.exists_lockedUntil_fail husable hreached
    have hlast : limit.nanos ≤ (r.fail p now).openFrom now.nanos := by
      unfold FailureRecord.openFrom
      rw [hlocked]
      exact Int.le_max_right _ _
    have hlocks : p.locksBetween ((r.fail p now).openFrom now.nanos) stop + 1 ≤
        p.locksBetween now.nanos stop := by
      obtain hduration | hfar := hlong
      · exact husable.locksBetween_of_add_le hstop (Int.le_trans hduration hlast)
      · rw [Instant.le_def] at hfar
        have hroom : p.locksBetween now.nanos stop ≠ 0 := by
          unfold locksBetween
          rw [if_pos hstop]
          exact Nat.succ_ne_zero _
        rw [locksBetween_eq_zero (by omega)]
        omega
    omega
  · have hsame : (r.fail p now).lockedUntil = r.lockedUntil :=
      FailureRecord.lockedUntil_fail_of_no_window
        ((p.window_eq_none_iff _).2 (Nat.lt_of_not_le hreached))
    have hopened : (r.fail p now).openFrom now.nanos = now.nanos := by
      unfold FailureRecord.openFrom
      rw [hsame]
      exact FailureRecord.openFrom_of_not_isLockedAt hopen
    rw [hopened]
    omega

end LockoutPolicy

end AuthGate
