import AuthGate.Proofs.Lockout.Records

namespace AuthGate

/-- A step of a tracker together with its clock. The last one moves the clock, and
the others read it. -/
inductive TrackerStep where
  | recordFailure (username : String)
  | clear (username : String)
  | purgeStale (idle : Duration)
  | moveClock (now : Instant)

/-- A tracker with the clock that it reads. -/
structure ClockedTracker where
  tracker : LockoutTracker
  now : Instant

/-- An event is the warning that an account has been locked. -/
def Event.warnsOfLock (username : String) : Event → Bool
  | .accountLocked name _ _ => name = username
  | _ => false

namespace ClockedTracker

variable (s : ClockedTracker)

/-- An account is locked at the time that the clock shows. -/
def isLocked (username : String) : Bool := s.tracker.isLocked username s.now

/-- One step, with the events that the tracker logs in it. -/
def step : TrackerStep → Logged ClockedTracker
  | .recordFailure username => do
    let (tracker, _) ← s.tracker.recordFailure username s.now
    return { s with tracker }
  | .clear username => do
    let tracker ← s.tracker.clear username s.now
    return { s with tracker }
  | .purgeStale idle => do
    let (tracker, _) ← s.tracker.purgeStale idle s.now
    return { s with tracker }
  | .moveClock now => return { s with now }

/-- A sequence of steps, with all events in their order. -/
def run (s : ClockedTracker) : List TrackerStep → Logged ClockedTracker
  | [] => return s
  | step :: steps => do (← s.step step).run steps

/-- The clock never goes back in the course of a run. -/
def Forward (s : ClockedTracker) : List TrackerStep → Prop
  | [] => True
  | step :: steps => s.now ≤ (s.step step).value.now ∧ (s.step step).value.Forward steps

/-- The account that a step counts a failure of, and the outcome of that failure. -/
def failure? : TrackerStep → Option (String × FailureOutcome)
  | .recordFailure username => some (username, (s.tracker.recordFailure username s.now).value.2)
  | _ => none

/-- What is written of a step that counts a failure by which an account is newly
locked. -/
def lockWarning? (step : TrackerStep) : Option Event :=
  (s.failure? step).bind fun (username, outcome) =>
    if outcome.newlyLocked then
      some (.accountLocked username outcome.attempts outcome.lockedUntil)
    else none

/-- A step takes an account from unlocked to locked. -/
def locks (username : String) (step : TrackerStep) : Bool :=
  !s.isLocked username && (s.step step).value.isLocked username

/-- A step is a failure of the account with the outcome that it is newly locked. -/
def reportsLock (username : String) (step : TrackerStep) : Bool :=
  (s.failure? step).any (FailureOutcome.locks username)

/-- In how many steps of a run an account is locked. -/
def transitions (username : String) (s : ClockedTracker) : List TrackerStep → Nat
  | [] => 0
  | step :: steps =>
    (if s.locks username step then 1 else 0) + transitions username (s.step step).value steps

/-- The deadlines that the failures of an account in a run report. -/
def deadlines (username : String) (s : ClockedTracker) : List TrackerStep → List Instant
  | [] => []
  | step :: steps =>
    (match s.failure? step with
      | some (name, outcome) => if name = username then outcome.lockedUntil.toList else []
      | none => []) ++ deadlines username (s.step step).value steps

@[simp] theorem tracker_step_recordFailure (username : String) :
    (s.step (.recordFailure username)).value.tracker =
      (s.tracker.recordFailure username s.now).value.1 := rfl

@[simp] theorem tracker_step_clear (username : String) :
    (s.step (.clear username)).value.tracker = (s.tracker.clear username s.now).value := rfl

@[simp] theorem tracker_step_purgeStale (idle : Duration) :
    (s.step (.purgeStale idle)).value.tracker = (s.tracker.purgeStale idle s.now).value.1 := rfl

variable {s}

theorem forward_append_iff (earlier later : List TrackerStep) :
    s.Forward (earlier ++ later) ↔ s.Forward earlier ∧ (s.run earlier).value.Forward later := by
  induction earlier generalizing s with
  | nil => exact ⟨fun h => ⟨trivial, h⟩, fun h => h.2⟩
  | cons step steps ih => exact (and_congr_right' ih).trans and_assoc.symm

/-! ### What is reported -/

/-- Nothing locks an account but a failure of it. -/
theorem isLocked_of_step {username : String} {step : TrackerStep}
    (hforward : s.now ≤ (s.step step).value.now) (hstep : step ≠ .recordFailure username)
    (hlocked : (s.step step).value.isLocked username = true) : s.isLocked username = true := by
  unfold isLocked at hlocked ⊢
  cases step with
  | recordFailure name =>
    have hne : name ≠ username := fun h => hstep (congrArg _ h)
    rw [LockoutTracker.isLocked_eq_any, tracker_step_recordFailure,
      LockoutTracker.record?_recordFailure, if_neg hne] at hlocked
    rw [LockoutTracker.isLocked_eq_any]
    exact hlocked
  | clear name =>
    rw [LockoutTracker.isLocked_eq_any, tracker_step_clear, LockoutTracker.record?_clear] at hlocked
    rw [LockoutTracker.isLocked_eq_any]
    split at hlocked
    · cases hlocked
    · exact hlocked
  | purgeStale idle =>
    rw [LockoutTracker.isLocked_eq_any, tracker_step_purgeStale, LockoutTracker.record?_purgeStale,
      Option.any_filter] at hlocked
    obtain ⟨r, hrecord, hkept⟩ := (Option.any_eq_true _ _).1 hlocked
    rw [LockoutTracker.isLocked_eq_any, Option.any_eq_true]
    exact ⟨r, hrecord, (Bool.and_eq_true_iff.1 hkept).2⟩
  | moveClock now => exact LockoutTracker.isLocked_of_le hlocked hforward

/-- A step locks an account exactly if it reports that. -/
theorem locks_eq_reportsLock {username : String} {step : TrackerStep}
    (hforward : s.now ≤ (s.step step).value.now) :
    s.locks username step = s.reportsLock username step := by
  by_cases hstep : step = .recordFailure username
  · subst hstep
    have hnew := s.tracker.newlyLocked_recordFailure username s.now
    simp only [locks, isLocked, reportsLock, failure?, FailureOutcome.locks, Option.any_some,
      decide_true, Bool.true_and, hnew]
    rfl
  · have hunlocked : s.locks username step = false := by
      unfold locks
      cases hlocked : (s.step step).value.isLocked username with
      | false => exact Bool.and_false _
      | true => rw [isLocked_of_step hforward hstep hlocked]; rfl
    have hsilent : s.reportsLock username step = false := by
      cases step with
      | recordFailure name =>
        have hne : name ≠ username := fun h => hstep (congrArg _ h)
        simp [reportsLock, failure?, FailureOutcome.locks, hne]
      | clear name => rfl
      | purgeStale idle => rfl
      | moveClock now => rfl
    rw [hunlocked, hsilent]

/-- Of the steps only failures that newly lock an account write a warning, and they
write one. -/
theorem filter_warn_step (step : TrackerStep) :
    (s.step step).events.filter (·.level = .warn) = (s.lockWarning? step).toList := by
  cases step with
  | recordFailure username =>
    have hwarning : ∀ outcome : FailureOutcome,
        [LockoutTracker.failureEvent username outcome].filter (·.level = .warn) =
          (if outcome.newlyLocked then
            some (Event.accountLocked username outcome.attempts outcome.lockedUntil)
          else none).toList := by
      intro outcome
      unfold LockoutTracker.failureEvent
      cases outcome.newlyLocked <;> rfl
    exact hwarning (s.tracker.recordFailure username s.now).value.2
  | clear username =>
    change ((s.tracker.clear username s.now).events ++ []).filter _ = _
    unfold LockoutTracker.clear
    split <;> rfl
  | purgeStale idle =>
    change ((s.tracker.purgeStale idle s.now).events ++ []).filter _ = _
    unfold LockoutTracker.purgeStale
    dsimp only
    split <;> rfl
  | moveClock now => rfl

theorem countP_warnsOfLock_step (username : String) (step : TrackerStep) :
    (s.step step).events.countP (Event.warnsOfLock username) =
      if s.reportsLock username step then 1 else 0 := by
  have hwarns : ∀ event ∈ (s.step step).events, event.warnsOfLock username = true ↔
      (event.warnsOfLock username && decide (event.level = .warn)) = true := by
    intro event _
    cases event <;> simp [Event.warnsOfLock, Event.level]
  rw [List.countP_congr hwarns, ← List.countP_filter, filter_warn_step]
  unfold lockWarning? reportsLock
  cases s.failure? step with
  | none => rfl
  | some failure =>
    obtain ⟨name, outcome⟩ := failure
    cases hlocked : outcome.newlyLocked <;> by_cases hname : name = username <;>
      simp [hlocked, hname, Event.warnsOfLock, FailureOutcome.locks]

/-- A run warns of the lock of an account as often as the account is locked. -/
theorem countP_warnsOfLock_run (username : String) {steps : List TrackerStep}
    (hforward : s.Forward steps) :
    (s.run steps).events.countP (Event.warnsOfLock username) = s.transitions username steps := by
  induction steps generalizing s with
  | nil => rfl
  | cons step steps ih =>
    change ((s.step step).events ++ ((s.step step).value.run steps).events).countP _ = _
    rw [List.countP_append, ih hforward.2, countP_warnsOfLock_step,
      ← locks_eq_reportsLock hforward.1]
    rfl

/-! ### What is between two reports -/

/-- A deadline is no later than the one held, or has passed. -/
def Covers (s : ClockedTracker) (username : String) (deadline : Instant) : Prop :=
  deadline ≤ s.now ∨ ∃ held, (s.tracker.info username).lockUntil = some held ∧ deadline ≤ held

theorem Covers.le_now {username : String} {deadline : Instant} (h : s.Covers username deadline)
    (hopen : s.isLocked username = false) : deadline ≤ s.now := by
  obtain hpassed | ⟨held, hheld, hle⟩ := h
  · exact hpassed
  · apply Int.not_lt.1
    intro hlater
    have hlocked : s.isLocked username = true :=
      (s.tracker.isLocked_iff username s.now).2 ⟨held, hheld, Int.lt_of_lt_of_le hlater hle⟩
    rw [hopen] at hlocked
    cases hlocked

/-- A deadline stays covered as long as the account is not cleared. A purge drops
the record only of an account that is not locked, so that the deadline has passed. -/
theorem Covers.step {username : String} {deadline : Instant} (h : s.Covers username deadline)
    {step : TrackerStep} (hforward : s.now ≤ (s.step step).value.now)
    (hstep : step ≠ .clear username) : (s.step step).value.Covers username deadline := by
  obtain hpassed | ⟨held, hheld, hle⟩ := id h
  · exact .inl (Int.le_trans hpassed hforward)
  cases step with
  | recordFailure name =>
    right
    rw [LockoutTracker.info_lockUntil, LockoutTracker.record_eq_getD] at hheld ⊢
    rw [tracker_step_recordFailure, LockoutTracker.record?_recordFailure]
    split
    · next hname =>
      subst hname
      obtain ⟨later, hlater, hle'⟩ := FailureRecord.le_lockedUntil_fail hheld
      exact ⟨later, hlater, Int.le_trans hle hle'⟩
    · exact ⟨held, hheld, hle⟩
  | clear name =>
    right
    have hne : name ≠ username := fun h => hstep (congrArg _ h)
    rw [LockoutTracker.info_lockUntil, LockoutTracker.record_eq_getD] at hheld ⊢
    rw [tracker_step_clear, LockoutTracker.record?_clear, if_neg hne]
    exact ⟨held, hheld, hle⟩
  | purgeStale idle =>
    cases hlocked : s.isLocked username with
    | false => exact .inl (h.le_now hlocked)
    | true =>
      have hsame := s.tracker.record?_purgeStale_of_isLocked hlocked idle
      right
      rw [tracker_step_purgeStale, LockoutTracker.info_eq_of_record?_eq hsame]
      exact ⟨held, hheld, hle⟩
  | moveClock now => exact .inr ⟨held, hheld, hle⟩

/-- The deadline that a failure reports is the one then held. -/
theorem covers_of_failure? {username : String} {step : TrackerStep} {outcome : FailureOutcome}
    {deadline : Instant} (hfailure : s.failure? step = some (username, outcome))
    (hdeadline : outcome.lockedUntil = some deadline) :
    (s.step step).value.Covers username deadline := by
  cases step with
  | recordFailure name =>
    obtain ⟨rfl, rfl⟩ := Prod.mk.inj (Option.some.inj hfailure)
    right
    refine ⟨deadline, ?_, Int.le_refl _⟩
    rw [LockoutTracker.info_lockUntil, tracker_step_recordFailure,
      LockoutTracker.record_recordFailure]
    exact hdeadline
  | clear name => cases hfailure
  | purgeStale idle => cases hfailure
  | moveClock now => cases hfailure

theorem Covers.run {username : String} {deadline : Instant} (h : s.Covers username deadline)
    {steps : List TrackerStep} (hforward : s.Forward steps) (hclear : .clear username ∉ steps) :
    (s.run steps).value.Covers username deadline := by
  induction steps generalizing s with
  | nil => exact h
  | cons step steps ih =>
    obtain ⟨hfirst, hrest⟩ := not_or.1 (mt List.mem_cons.2 hclear)
    exact ih (h.step hforward.1 (Ne.symm hfirst)) hforward.2 hrest

theorem mem_deadlines_cons {username : String} {deadline : Instant} {step : TrackerStep}
    {steps : List TrackerStep} :
    deadline ∈ s.deadlines username (step :: steps) ↔
      (∃ outcome, s.failure? step = some (username, outcome) ∧
        outcome.lockedUntil = some deadline) ∨
      deadline ∈ (s.step step).value.deadlines username steps := by
  rw [deadlines, List.mem_append]
  apply or_congr_left
  cases hfailure : s.failure? step with
  | none => simp
  | some failure =>
    obtain ⟨name, outcome⟩ := failure
    by_cases hname : name = username
    · simp [hname]
    · simp [hname]

/-- All deadlines that have been reported in a run are covered in the end, if the
account has not been cleared. -/
theorem covers_of_mem_deadlines {username : String} {deadline : Instant}
    {steps : List TrackerStep} (hforward : s.Forward steps) (hclear : .clear username ∉ steps)
    (hmem : deadline ∈ s.deadlines username steps) :
    (s.run steps).value.Covers username deadline := by
  induction steps generalizing s with
  | nil => cases hmem
  | cons step steps ih =>
    obtain ⟨-, hrest⟩ := not_or.1 (mt List.mem_cons.2 hclear)
    obtain ⟨outcome, hfailure, hdeadline⟩ | hlater := mem_deadlines_cons.1 hmem
    · exact (covers_of_failure? hfailure hdeadline).run hforward.2 hrest
    · exact ih hforward.2 hrest hlater

/-- Where an account is newly locked again, it has been cleared in between, or the
clock has passed all deadlines that have been reported since. -/
theorem deadlines_le_now_of_reportsLock {username : String} {first second : TrackerStep}
    {between after : List TrackerStep} (hforward : s.Forward (first :: between ++ second :: after))
    (hfirst : s.reportsLock username first = true)
    (hsecond : (s.run (first :: between)).value.reportsLock username second = true)
    (hclear : .clear username ∉ between) :
    ∀ deadline ∈ s.deadlines username (first :: between),
      deadline ≤ (s.run (first :: between)).value.now := by
  obtain ⟨hpassed, hlast, -⟩ := (forward_append_iff _ _).1 hforward
  intro deadline hmem
  have hne : TrackerStep.clear username ≠ first := by
    rintro rfl
    cases hfirst
  have hcovers := covers_of_mem_deadlines hpassed
    (mt List.mem_cons.1 (not_or.2 ⟨hne, hclear⟩)) hmem
  rw [← locks_eq_reportsLock hlast] at hsecond
  have hopen : (s.run (first :: between)).value.isLocked username = false :=
    Bool.not_eq_true' _ |>.mp (Bool.and_eq_true_iff.1 hsecond).1
  exact hcovers.le_now hopen

/-- Every lock is reported once. In a run in which the clock never goes back, from
any state of a tracker of any policy, a step takes an account from unlocked to
locked exactly if it is a failure of that account with the outcome that it is newly
locked. Such a step writes one warning, and no other step writes any, so that the
log of the run warns of the account as often as it is locked. Between two such
failures the account is cleared, or the clock passes all deadlines that its failures
have reported since the first of them. -/
theorem lock_transitions_reported {steps : List TrackerStep} (hforward : s.Forward steps)
    (username : String) :
    (∀ (before after : List TrackerStep) (step : TrackerStep), steps = before ++ step :: after →
      let reached := (s.run before).value
      reached.locks username step = reached.reportsLock username step ∧
        (reached.step step).events.filter (·.level = .warn) =
          (reached.lockWarning? step).toList) ∧
    (s.run steps).events.countP (Event.warnsOfLock username) = s.transitions username steps ∧
    ∀ (before between after : List TrackerStep) (first second : TrackerStep),
      steps = before ++ first :: between ++ second :: after →
      let reached := (s.run before).value
      let later := (reached.run (first :: between)).value
      reached.reportsLock username first = true → later.reportsLock username second = true →
        .clear username ∈ between ∨
          ∀ deadline ∈ reached.deadlines username (first :: between), deadline ≤ later.now := by
  refine ⟨?_, countP_warnsOfLock_run username hforward, ?_⟩
  · rintro before after step rfl
    obtain ⟨-, hstep, -⟩ := (forward_append_iff _ _).1 hforward
    exact ⟨locks_eq_reportsLock hstep, filter_warn_step step⟩
  · rintro before between after first second rfl reached later hfirst hsecond
    rw [List.append_assoc, forward_append_iff] at hforward
    by_cases hclear : .clear username ∈ between
    · exact .inl hclear
    · exact .inr (deadlines_le_now_of_reportsLock hforward.2 hfirst hsecond hclear)

/-- Of four failures the second one locks, the third one moves the deadline from
fifteen minutes to twenty-five, and the fourth one locks again at that very moment:
two locks, two warnings. -/
theorem locked_again_at_deadline :
    let policy := { LockoutPolicy.default with maxFailedAttempts := 2 }
    let start : ClockedTracker := ⟨.new policy, .epoch⟩
    let failure : TrackerStep := .recordFailure "alice"
    let early : Instant := ⟨600_000_000_000, by decide, by decide⟩
    let late : Instant := ⟨1_500_000_000_000, by decide, by decide⟩
    let between : List TrackerStep := [.moveClock early, failure, .moveClock late]
    let steps := [failure] ++ failure :: between ++ [failure]
    start.Forward steps ∧
      (start.run steps).events.countP (Event.warnsOfLock "alice") = 2 ∧
      (start.run [failure]).value.reportsLock "alice" failure = true ∧
      (start.run ([failure] ++ failure :: between)).value.reportsLock "alice" failure = true ∧
      ∀ deadline ∈ (start.run [failure]).value.deadlines "alice" (failure :: between),
        deadline ≤ late := by
  intro policy start failure early late between steps
  have hforward : start.Forward steps :=
    ⟨by decide, by decide, by decide, by decide, by decide, by decide, trivial⟩
  have hfirst : (start.run [failure]).value.reportsLock "alice" failure = true := by
    decide +kernel
  have hsecond :
      (start.run ([failure] ++ failure :: between)).value.reportsLock "alice" failure = true := by
    decide +kernel
  obtain ⟨-, hcount, hbetween⟩ := lock_transitions_reported hforward "alice"
  have htransitions : start.transitions "alice" steps = 2 := by decide +kernel
  refine ⟨hforward, hcount.trans htransitions, hfirst, hsecond, ?_⟩
  obtain hcleared | hpassed := hbetween [failure] between [] failure failure rfl hfirst hsecond
  · simp [between, failure] at hcleared
  · exact hpassed

end ClockedTracker

end AuthGate
