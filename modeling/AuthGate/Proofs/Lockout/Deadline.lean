import AuthGate.Proofs.Lockout.Window

namespace AuthGate

namespace FailureRecord

theorem lt_extend_iff (held : Option Instant) (deadline now : Instant) :
    now < extend held deadline ↔ (∃ old, held = some old ∧ now < old) ∨ now < deadline := by
  have hlater := le_extend held deadline
  constructor
  · intro h
    obtain hnew | hheld := extend_eq_or held deadline
    · exact .inr (hnew ▸ h)
    · exact .inl ⟨_, hheld, h⟩
  · rintro (⟨old, rfl, h⟩ | h)
    · exact Int.lt_of_lt_of_le h (held_le_extend old deadline)
    · exact Int.lt_of_lt_of_le h hlater

/-- A failure that opens a window leaves a record locked if it was, or if the window ends
later. -/
theorem isLockedAt_fail_iff_of_window {p : LockoutPolicy} {r : FailureRecord} {now : Instant}
    {window : Duration} (hwindow : p.window (r.fail p now).failures = some window) :
    (r.fail p now).isLockedAt now = true ↔
      r.isLockedAt now = true ∨ now < now.deadline window := by
  rw [isLockedAt_iff, isLockedAt_iff, lockedUntil_fail_of_window hwindow, ← lt_extend_iff]
  simp

end FailureRecord

namespace LockoutTracker

/-- A failure that has brought the count to the threshold of a valid policy leaves its account
locked, except on the last day of the calendar, where it needs a window that ends in time. -/
theorem isLocked_recordFailure_iff {s : AuthSettings} (hvalid : s.defect? = none)
    {t : LockoutTracker} (hpolicy : t.policy = s.lockout) {username : String} {now : Instant}
    (hreached : s.lockout.maxFailedAttempts.toNat ≤
      ((t.recordFailure username now).value.1.info username).attempts) :
    ∃ window,
      s.lockout.window ((t.recordFailure username now).value.1.info username).attempts =
        some window ∧
      ((t.recordFailure username now).value.1.isLocked username now = true ↔
        t.isLocked username now = true ∨ now.Reaches window ∨ now < .farFuture) := by
  have husable := AuthSettings.usable_of_defect? hvalid
  obtain ⟨window, hwindow⟩ := s.lockout.exists_window hreached
  have hopen : .zero < window :=
    Nat.lt_of_lt_of_le husable.duration (husable.lockoutDuration_le_window hwindow)
  refine ⟨window, hwindow, ?_⟩
  rw [info_attempts, record_recordFailure, hpolicy] at hwindow
  rw [isLocked_eq, isLocked_eq, record_recordFailure, hpolicy,
    FailureRecord.isLockedAt_fail_iff_of_window hwindow, Instant.lt_deadline_iff hopen]

/-- What becomes of deadlines at the end of the calendar. A window that leads out of it ends as
the last day begins. So a deadline may be before the start of its window, or no later than it,
or earlier than that of a shorter window, and a failure that reaches the threshold of a valid
policy may leave its account unlocked, each exactly on the condition given here. For windows
that open before the last day only the order of two deadlines can fail. -/
theorem deadlines_at_calendar_end {start : Instant} {short long : Duration} (hle : short ≤ long) :
    (start ≤ start.deadline short ↔ start.Reaches short ∨ start ≤ .farFuture) ∧
    (.zero < short →
      (start < start.deadline short ↔ start.Reaches short ∨ start < .farFuture)) ∧
    (start.deadline short ≤ start.deadline long ↔
      start.Reaches long ∨ ¬ start.Reaches short ∨
        start.nanos + short.nanos ≤ Instant.farFuture.nanos) ∧
    start.deadline short =
      (short.signed?.bind fun span => Instant.ofNanos? (start.nanos + span)).getD .farFuture ∧
    ∀ (s : AuthSettings) (t : LockoutTracker) (username : String),
      let failed := (t.recordFailure username start).value.1
      s.defect? = none → t.policy = s.lockout →
      s.lockout.maxFailedAttempts.toNat ≤ (failed.info username).attempts →
      ∃ window, s.lockout.window (failed.info username).attempts = some window ∧
        (failed.isLocked username start = true ↔
          t.isLocked username start = true ∨ start.Reaches window ∨ start < .farFuture) :=
  ⟨Instant.le_deadline_iff, Instant.lt_deadline_iff, Instant.deadline_le_deadline_iff hle,
    start.deadline_eq_of_signed? short,
    fun _ _ _ hvalid hpolicy hreached => isLocked_recordFailure_iff hvalid hpolicy hreached⟩

/-- An hour before the last day a window that leads out of the calendar still ends later than
it opens, and later than a window of half an hour. The first failure locks. -/
theorem locked_before_last_day :
    let s := { AuthSettings.default with
      token := ⟨"0123456789abcdef0123456789abcdef", .seconds 3600⟩
      lockout := { LockoutPolicy.default with
        maxFailedAttempts := 1, lockoutDuration := .seconds 86400 } }
    let start : Instant := ⟨253402210800 * 1_000_000_000, by decide, by decide⟩
    let short : Duration := .seconds 1800
    let long : Duration := .seconds 172800
    let failed := ((new s.lockout).recordFailure "alice" start).value.1
    short ≤ long ∧ .zero < short ∧ start < start.deadline short ∧
      start.deadline short ≤ start.deadline long ∧
      s.defect? = none ∧ s.lockout.maxFailedAttempts.toNat ≤ (failed.info "alice").attempts ∧
      failed.isLocked "alice" start = true := by
  intro s start short long failed
  have hle : short ≤ long := by decide
  have hopen : .zero < short := by decide
  have hbefore : start < .farFuture := by decide
  have hvalid : s.defect? = none := by decide +kernel
  have hreached : s.lockout.maxFailedAttempts.toNat ≤ (failed.info "alice").attempts := by
    decide +kernel
  obtain ⟨-, hlater, hlonger, -, hfailed⟩ := @deadlines_at_calendar_end start _ _ hle
  obtain ⟨window, -, hlocks⟩ := hfailed s (new s.lockout) "alice" hvalid rfl hreached
  exact ⟨hle, hopen, (hlater hopen).2 (.inr hbefore), hlonger.2 (.inr (.inr (by decide))), hvalid,
    hreached, hlocks.2 (.inr (.inr hbefore))⟩

/-- Ten minutes before the end of the calendar a window of a quarter of an hour ends before it
opens, so that the failure that opens it leaves its account unlocked. An hour before the last
day a window of two days ends earlier than one of two hours. -/
theorem unlocked_on_last_day :
    let s := { AuthSettings.default with
      token := ⟨"0123456789abcdef0123456789abcdef", .seconds 3600⟩
      lockout := { LockoutPolicy.default with maxFailedAttempts := 1 } }
    let late : Instant := ⟨253402300200 * 1_000_000_000, by decide, by decide⟩
    let early : Instant := ⟨253402210800 * 1_000_000_000, by decide, by decide⟩
    let failed := ((new s.lockout).recordFailure "alice" late).value.1
    late.deadline s.lockout.lockoutDuration < late ∧
      early.deadline (.seconds 172800) < early.deadline (.seconds 7200) ∧
      s.defect? = none ∧ s.lockout.maxFailedAttempts.toNat ≤ (failed.info "alice").attempts ∧
      failed.isLocked "alice" late = false := by
  decide +kernel

end LockoutTracker

end AuthGate
